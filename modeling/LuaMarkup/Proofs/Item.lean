import LuaMarkup.Category
import LuaMarkup.Proofs.Matching

/-!
# Boxes

A sequence of items is a working text in which a classified stretch is a box that holds its
items, and no character stands for anything but itself. `Boxing` says what one pass of a rule
does to such a sequence, through what the rule accepts and where; `Rule.box` computes it
(`boxing_iff`).
-/

namespace LuaMarkup

inductive Item where
  | char (c : Char)
  | box (category : Category) (content : List Item)

instance : Glyph Item where
  char?
    | .char c => some c
    | .box .. => none

namespace Item

def ofText (text : Text) : List Item :=
  text.map .char

mutual
/-- A character is printed as it is and a box as the span of its category. -/
def render : Item → Text
  | .char c => [c]
  | .box category content => category.wrap (renderAll content)
def renderAll : List Item → Text
  | [] => []
  | item :: items => item.render ++ renderAll items
end

mutual
/-- The characters of an item in order, those inside of boxes included. -/
def letters : Item → Text
  | .char c => [c]
  | .box _ content => lettersAll content
def lettersAll : List Item → Text
  | [] => []
  | item :: items => item.letters ++ lettersAll items
end

@[simp] theorem char?_char (c : Char) : Glyph.char? (Item.char c) = some c := rfl

@[simp] theorem char?_box (category : Category) (content : List Item) :
    Glyph.char? (Item.box category content) = none := rfl

theorem char?_eq_some_iff {item : Item} : Glyph.char? item = some c ↔ item = .char c := by
  cases item <;> simp

theorem spells_iff {items : List Item} : Spells items text ↔ items = ofText text := by
  induction text generalizing items with
  | nil => exact spells_nil
  | cons c text ih =>
    simp only [spells_cons, char?_eq_some_iff, ih, ofText, List.map_cons]
    constructor
    · rintro ⟨_, _, rfl, rfl, rfl⟩
      rfl
    · rintro rfl
      exact ⟨_, _, rfl, rfl, rfl⟩

@[simp] theorem ofText_nil : ofText [] = [] := rfl

@[simp] theorem ofText_cons (c : Char) (text : Text) :
    ofText (c :: text) = .char c :: ofText text := rfl

@[simp] theorem ofText_append (left right : Text) :
    ofText (left ++ right) = ofText left ++ ofText right :=
  List.map_append

@[simp] theorem renderAll_append (left right : List Item) :
    renderAll (left ++ right) = renderAll left ++ renderAll right := by
  induction left with
  | nil => rfl
  | cons item left ih => simp [renderAll, ih]

@[simp] theorem lettersAll_append (left right : List Item) :
    lettersAll (left ++ right) = lettersAll left ++ lettersAll right := by
  induction left with
  | nil => rfl
  | cons item left ih => simp [lettersAll, ih]

@[simp] theorem renderAll_ofText (text : Text) : renderAll (ofText text) = text := by
  induction text with
  | nil => rfl
  | cons c text ih => simp [renderAll, render, ih]

@[simp] theorem lettersAll_ofText (text : Text) : lettersAll (ofText text) = text := by
  induction text with
  | nil => rfl
  | cons c text ih => simp [lettersAll, letters, ih]

theorem mem_lettersAll {items : List Item} (h : .char c ∈ items) : c ∈ lettersAll items := by
  obtain ⟨front, back, rfl⟩ := List.append_of_mem h
  simp [lettersAll, letters]

end Item

/-- One pass of a rule. From the left, the shortest match at a place where there is one goes
into a box, and the pass goes on behind its context. -/
inductive Boxing (rule : Rule) : List Item → List Item → Prop
  | nil : Boxing rule [] []
  | skip : (∀ m c r, rule.Accepts m c → item :: items ≠ m ++ c ++ r) → Boxing rule items out →
      Boxing rule (item :: items) (item :: out)
  | hit : rule.Shortest items ⟨m, c, r⟩ → Boxing rule r out →
      Boxing rule items (.box rule.category m :: (c ++ out))

/-- The passes of the rules in order. -/
inductive Boxings : List Rule → List Item → List Item → Prop
  | nil : Boxings [] items items
  | cons : Boxing rule items middle → Boxings rules middle out → Boxings (rule :: rules) items out

/-- A match in a box, with its context behind it. -/
def Segment.boxed (category : Category) : Segment Item → List Item
  | .plain item => [item]
  | .hit matched context => .box category matched :: context

def Rule.box (rule : Rule) (items : List Item) : List Item :=
  (rule.segments items).flatMap (Segment.boxed rule.category)

def boxAll (rules : List Rule) (items : List Item) : List Item :=
  rules.foldl (fun items rule => rule.box items) items

theorem boxAll_cons (rule : Rule) (rules : List Rule) (items : List Item) :
    boxAll (rule :: rules) items = boxAll rules (rule.box items) := rfl

namespace Rule

theorem box_nil (rule : Rule) : rule.box [] = [] := by
  simp [box]

theorem box_of_match?_eq_none {rule : Rule} {item : Item} {items : List Item}
    (h : rule.match? (item :: items) = none) :
    rule.box (item :: items) = item :: rule.box items := by
  rw [box, segments_of_match?_eq_none h]
  rfl

theorem box_of_match? {rule : Rule} {items : List Item} {hit : Hit Item}
    (h : rule.match? items = some hit) :
    rule.box items = .box rule.category hit.matched :: (hit.context ++ rule.box hit.rest) := by
  rw [box, segments_of_match? h]
  rfl

end Rule

theorem boxing_box (rule : Rule) (items : List Item) : Boxing rule items (rule.box items) := by
  induction items using @Rule.induction_on Item _ rule with
  | nil =>
    rw [Rule.box_nil]
    exact .nil
  | hit item items hit h ih =>
    rw [Rule.box_of_match? h]
    exact .hit (Rule.match?_eq_some_iff.mp h) ih
  | plain item items h ih =>
    rw [Rule.box_of_match?_eq_none h]
    exact .skip (Rule.match?_eq_none_iff.mp h) ih

theorem boxing_iff {rule : Rule} : Boxing rule items out ↔ out = rule.box items := by
  constructor
  · intro h
    induction h with
    | nil => rw [Rule.box_nil]
    | skip hnone _ ih => rw [ih, Rule.box_of_match?_eq_none (Rule.match?_eq_none_iff.mpr hnone)]
    | hit hshortest _ ih => rw [ih, Rule.box_of_match? (Rule.match?_eq_some_iff.mpr hshortest)]
  · rintro rfl
    exact boxing_box rule items

theorem boxings_iff {rules : List Rule} : Boxings rules items out ↔ out = boxAll rules items := by
  constructor
  · intro h
    induction h with
    | nil => rfl
    | cons hfirst _ ih => rw [ih, boxing_iff.mp hfirst, boxAll_cons]
  · rintro rfl
    induction rules generalizing items with
    | nil => exact .nil
    | cons rule rules ih => exact .cons (boxing_box rule items) ih

/-- Boxes hide nothing and add nothing. -/
theorem lettersAll_box (rule : Rule) (items : List Item) :
    Item.lettersAll (rule.box items) = Item.lettersAll items := by
  induction items using @Rule.induction_on Item _ rule with
  | nil => rw [Rule.box_nil]
  | hit item items hit h ih =>
    rw [Rule.box_of_match? h, Rule.append_of_match? h]
    simp [Item.lettersAll, Item.letters, ih]
  | plain item items h ih =>
    rw [Rule.box_of_match?_eq_none h]
    simp [Item.lettersAll, ih]

theorem lettersAll_boxAll (rules : List Rule) (items : List Item) :
    Item.lettersAll (boxAll rules items) = Item.lettersAll items := by
  induction rules generalizing items with
  | nil => rfl
  | cons rule rules ih => rw [boxAll_cons, ih, lettersAll_box]

end LuaMarkup
