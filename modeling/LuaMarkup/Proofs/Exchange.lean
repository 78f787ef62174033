import LuaMarkup.Proofs.Content

/-!
# The sentinel is a character like any other

`exchange` puts an ordinary character, one that neither escaping nor a rule looks for, in the
place of every sentinel. A rule accepts the same stretches before and after
(`Pattern.accepts_exchange_iff`), so a pass and the exchange may be made in either order
(`Rule.box_exchange`), and so may highlighting and the exchange
(`highlight_replaceChar_sentinel`): a sentinel is never read as the start of a token.

The one mark that may be an ordinary character is the `>` of a line end, and no line end in
escaped text waits for its `>` (`LineEndsWhole`).
-/

namespace LuaMarkup

/-- Neither escaping nor a rule looks for the character. -/
def IsOrdinary (c : Char) : Prop :=
  c ∉ ['\r', '\n', '\t', ' ', '&', '<', '\\', '"', '\''] ++ operators.toList ∧ ¬c.isAlpha

instance (c : Char) : Decidable (IsOrdinary c) :=
  inferInstanceAs (Decidable (_ ∧ _))

/-- Every sentinel gives way to `c`. -/
def exchange (c d : Char) : Char :=
  if d = sentinel then c else d

namespace Item

mutual
def exchange (c : Char) : Item → Item
  | .char d => .char (LuaMarkup.exchange c d)
  | .box category content => .box category (exchangeAll c content)
def exchangeAll (c : Char) : List Item → List Item
  | [] => []
  | item :: items => item.exchange c :: exchangeAll c items
end

theorem exchangeAll_eq_map (c : Char) (items : List Item) :
    exchangeAll c items = items.map (exchange c) := by
  induction items with
  | nil => rfl
  | cons item items ih => rw [exchangeAll, ih, List.map_cons]

theorem map_exchange_ofText (c : Char) (text : Text) :
    (ofText text).map (exchange c) = ofText (text.map (LuaMarkup.exchange c)) := by
  simp only [ofText, List.map_map]
  rfl

end Item

theorem replaceChar_sentinel (c : Char) (text : Text) :
    Text.replaceChar sentinel [c] text = text.map (exchange c) := by
  rw [Text.replaceChar, List.map_eq_flatMap]
  congr 1
  funext d
  rw [exchange]
  split <;> rfl

theorem map_exchange_of_notMem {text : Text} (h : sentinel ∉ text) (c : Char) :
    text.map (exchange c) = text := by
  have hid : text.map (exchange c) = text.map id := by
    refine List.map_congr_left fun d hd => if_neg ?_
    rintro rfl
    exact h hd
  rw [hid, List.map_id]

-- ---------------------------------------------------------------------------
-- What an exchange cannot make or break
-- ---------------------------------------------------------------------------

/-- The exchange neither takes the character away nor puts one. -/
def Kept (c e : Char) : Prop :=
  e ≠ sentinel ∧ e ≠ c

theorem exchange_eq_iff (h : Kept c e) : exchange c d = e ↔ d = e := by
  rw [exchange]
  split
  · rename_i hd
    subst hd
    exact iff_of_false (Ne.symm h.2) (Ne.symm h.1)
  · rfl

theorem IsOrdinary.isPlain (h : IsOrdinary c) : Escape.IsPlain c := by
  have hspecial : ∀ e ∈ ['&', '<', '\n', '\t', ' '], ¬IsOrdinary e := by decide
  exact fun hmem => hspecial c hmem h

theorem kept_of_not_isOrdinary (hc : IsOrdinary c) (he : e ≠ sentinel ∧ ¬IsOrdinary e) :
    Kept c e := by
  refine ⟨he.1, ?_⟩
  rintro rfl
  exact he.2 hc

theorem kept_of_mem_marks (hc : IsOrdinary c) :
    ∀ e ∈ '\n' :: Rule.all.flatMap Rule.marks, e ≠ '>' → Kept c e := by
  have hmarks : ∀ e ∈ '\n' :: Rule.all.flatMap Rule.marks, e ≠ '>' →
      e ≠ sentinel ∧ ¬IsOrdinary e := by decide
  exact fun e he hne => kept_of_not_isOrdinary hc (hmarks e he hne)

variable {c : Char}

theorem char?_exchange {item : Item} (h : Kept c e) :
    Glyph.char? (item.exchange c) = some e ↔ Glyph.char? item = some e := by
  cases item with
  | char d => simp [Item.exchange, exchange_eq_iff h]
  | box => simp [Item.exchange]

theorem fits_exchange {item : Item} (h : ∀ e ∈ allowed, Kept c e) :
    Fits allowed (item.exchange c) ↔ Fits allowed item :=
  exists_congr fun e => and_congr_right fun he => char?_exchange (h e he)

theorem forall₂_exchange {items : List Item} (h : ∀ e ∈ classes.flatten, Kept c e) :
    List.Forall₂ Fits classes (items.map (Item.exchange c)) ↔
      List.Forall₂ Fits classes items := by
  induction classes generalizing items with
  | nil => simp
  | cons allowed classes ih =>
    have hallowed : ∀ e ∈ allowed, Kept c e := fun e he => h e (by simp [he])
    have hclasses : ∀ e ∈ classes.flatten, Kept c e := fun e he =>
      h e (List.mem_append_right allowed he)
    cases items with
    | nil => simp
    | cons item items => simp [fits_exchange hallowed, ih hclasses]

theorem spells_exchange {items : List Item} (h : ∀ e ∈ text, Kept c e) :
    Spells (items.map (Item.exchange c)) text ↔ Spells items text := by
  rw [← forall₂_exactly, ← forall₂_exactly]
  exact forall₂_exchange (by rwa [Pattern.flatten_exactly])

theorem onOneLine_exchange {items : List Item} (h : Kept c '\n') :
    OnOneLine (items.map (Item.exchange c)) ↔ OnOneLine items := by
  simp [OnOneLine, char?_exchange h]

/-- Where a line end begins it is whole. -/
def LineEndsWhole (items : List Item) : Prop :=
  ∀ front item back, items = front ++ .char '<' :: .char 'b' :: .char 'r' :: item :: back →
    item = .char '>'

theorem LineEndsWhole.of_append (h : LineEndsWhole (front ++ items)) : LineEndsWhole items := by
  rintro front' item back rfl
  exact h (front ++ front') item back (by simp)

theorem Whole.lineEndsWhole (h : Whole items) : LineEndsWhole items := by
  rintro front item back rfl
  obtain ⟨-, hback⟩ := (whole_iff.mp h).cut_before (by decide : '<' ∉ innerCharacters)
  generalize heq : Item.char '<' :: _ = behind at hback
  cases hback with
  | nil => cases heq
  | plain hplain =>
    obtain rfl := Item.char.inj (List.cons.inj heq).1
    exact absurd hplain (by decide)
  | entity hmem =>
    obtain rfl := eq_lineEnd_of_append_eq hmem heq.symm
    rw [show lineEnd = ['<', 'b', 'r', '>'] from rfl] at heq
    simp only [Item.ofText_cons, List.cons_append, List.cons.injEq, true_and] at heq
    exact heq.1
  | box => cases heq

theorem spells_lineEnd_exchange {items : List Item} (hc : IsOrdinary c)
    (h : LineEndsWhole (items ++ back)) :
    Spells (items.map (Item.exchange c)) lineEnd ↔ Spells items lineEnd := by
  have hstart : ∀ e ∈ ['<', 'b', 'r'], Kept c e := fun e he =>
    kept_of_mem_marks hc e (by revert e; decide) (by revert e; decide)
  constructor
  · intro hspell
    -- the start is kept, and it is whole
    rw [Spells, show lineEnd = ['<', 'b', 'r'] ++ ['>'] from rfl, List.map_append] at hspell
    obtain ⟨l, r, heq, hl, hr⟩ := List.map_eq_append_iff.mp hspell
    obtain ⟨start, last, rfl, rfl, rfl⟩ := List.map_eq_append_iff.mp heq
    obtain rfl := Item.spells_iff.mp ((spells_exchange hstart).mp hl)
    obtain ⟨last, rfl⟩ := List.length_eq_one_iff.mp (by simpa using congrArg List.length hr)
    obtain rfl := h [] last back rfl
    exact Item.spells_iff.mpr rfl
  · intro hspell
    rw [Item.spells_iff] at hspell ⊢
    rw [hspell, Item.map_exchange_ofText, map_exchange_of_notMem (by decide)]

namespace Pattern

/-- The marks of what a pattern classifies. -/
def inside : Pattern → List Char
  | .each classes _ => classes.flatten
  | .run opening closing _ => opening ++ closing

def context : Pattern → Text
  | .each _ context => context
  | .run _ _ context => context

theorem accepts_exchange_iff {pattern : Pattern} {m behind : List Item} (hfeed : Kept c '\n')
    (hinside : ∀ e ∈ pattern.inside, Kept c e)
    (hcontext : Spells (behind.map (Item.exchange c)) pattern.context ↔
      Spells behind pattern.context) :
    pattern.Accepts (m.map (Item.exchange c)) (behind.map (Item.exchange c)) ↔
      pattern.Accepts m behind := by
  cases pattern with
  | each classes context => exact and_congr (forall₂_exchange hinside) hcontext
  | run opening closing context =>
    have hopening : ∀ e ∈ opening, Kept c e := fun e he => hinside e (List.mem_append_left _ he)
    have hclosing : ∀ e ∈ closing, Kept c e := fun e he => hinside e (List.mem_append_right _ he)
    constructor
    · rintro ⟨start, body, stop, heq, hstart, hbody, hstop, hc⟩
      obtain ⟨front, stop, rfl, hfront, rfl⟩ := List.map_eq_append_iff.mp heq
      obtain ⟨start, body, rfl, rfl, rfl⟩ := List.map_eq_append_iff.mp hfront
      exact ⟨start, body, stop, rfl, (spells_exchange hopening).mp hstart,
        (onOneLine_exchange hfeed).mp hbody, (spells_exchange hclosing).mp hstop, hcontext.mp hc⟩
    · rintro ⟨start, body, stop, rfl, hstart, hbody, hstop, hc⟩
      exact ⟨_, _, _, by rw [List.map_append, List.map_append],
        (spells_exchange hopening).mpr hstart, (onOneLine_exchange hfeed).mpr hbody,
        (spells_exchange hclosing).mpr hstop, hcontext.mpr hc⟩

end Pattern

namespace Rule

theorem accepts_exchange_iff {rule : Rule} {m behind : List Item} (hc : IsOrdinary c)
    (h : LineEndsWhole (m ++ behind ++ r)) :
    rule.Accepts (m.map (Item.exchange c)) (behind.map (Item.exchange c)) ↔
      rule.Accepts m behind := by
  have hkept := kept_of_mem_marks hc
  have hpatterns : ∀ rule ∈ all, ∀ pattern ∈ rule.alternatives,
      (∀ e ∈ pattern.inside, e ≠ '>' ∧ e ∈ '\n' :: all.flatMap marks) ∧
        pattern.context ∈ [[], ['<'], lineEnd] := by decide
  have hrule : rule ∈ all := by cases rule <;> decide
  rw [accepts_iff, accepts_iff]
  refine exists_congr fun pattern => and_congr_right fun hmem => ?_
  obtain ⟨hinside, hcontext⟩ := hpatterns rule hrule pattern hmem
  refine Pattern.accepts_exchange_iff (hkept '\n' (by decide) (by decide))
    (fun e he => hkept e (hinside e he).2 (hinside e he).1) ?_
  generalize pattern.context = text at hcontext
  simp only [List.mem_cons, List.not_mem_nil, or_false] at hcontext
  rcases hcontext with rfl | rfl | rfl
  · simp [spells_nil]
  · exact spells_exchange fun e he => hkept e (by revert e; decide) (by revert e; decide)
  · rw [List.append_assoc] at h
    exact spells_lineEnd_exchange hc h.of_append

/-- The exchange moves no match. -/
theorem Shortest.exchange {rule : Rule} {items : List Item} {hit : Hit Item} (hc : IsOrdinary c)
    (hitems : LineEndsWhole items) (h : rule.Shortest items hit) :
    rule.Shortest (items.map (Item.exchange c)) ⟨hit.matched.map (Item.exchange c),
      hit.context.map (Item.exchange c), hit.rest.map (Item.exchange c)⟩ where
  accepts := (accepts_exchange_iff hc (h.items_eq ▸ hitems)).mpr h.accepts
  items_eq := by simp [h.items_eq]
  least := by
    intro m' c' r' haccepts heq
    obtain ⟨front, r, rfl, hfront, rfl⟩ := List.map_eq_append_iff.mp heq
    obtain ⟨m, behind, rfl, rfl, rfl⟩ := List.map_eq_append_iff.mp hfront
    simpa using h.least m behind r ((accepts_exchange_iff hc hitems).mp haccepts) rfl

theorem match?_exchange_eq_none {rule : Rule} {items : List Item} (hc : IsOrdinary c)
    (hitems : LineEndsWhole items) (h : rule.match? items = none) :
    rule.match? (items.map (Item.exchange c)) = none := by
  rw [match?_eq_none_iff] at h ⊢
  intro m' c' r' haccepts heq
  obtain ⟨front, r, rfl, hfront, rfl⟩ := List.map_eq_append_iff.mp heq
  obtain ⟨m, behind, rfl, rfl, rfl⟩ := List.map_eq_append_iff.mp hfront
  exact h m behind r ((accepts_exchange_iff hc hitems).mp haccepts) rfl

theorem box_exchange (rule : Rule) {items : List Item} (hc : IsOrdinary c)
    (hitems : LineEndsWhole items) :
    rule.box (items.map (Item.exchange c)) = (rule.box items).map (Item.exchange c) := by
  induction items using @Rule.induction_on Item _ rule with
  | nil => rw [List.map_nil, box_nil, List.map_nil]
  | hit item items hit h ih =>
    have hshort := match?_eq_some_iff.mp h
    have hrest := ih (hshort.items_eq ▸ hitems).of_append
    rw [box_of_match? (match?_eq_some_iff.mpr (hshort.exchange hc hitems)), box_of_match? h,
      hrest, List.map_cons, List.map_append, Item.exchange, Item.exchangeAll_eq_map]
  | plain item items h ih =>
    have hnone := match?_exchange_eq_none hc hitems h
    have hrest := ih (show LineEndsWhole ([item] ++ items) from hitems).of_append
    rw [List.map_cons] at hnone ⊢
    rw [box_of_match?_eq_none hnone, box_of_match?_eq_none h, hrest, List.map_cons]

end Rule

theorem boxAll_exchange (rules : List Rule) {items : List Item} (hc : IsOrdinary c)
    (hitems : Whole items) :
    boxAll rules (items.map (Item.exchange c)) =
      (boxAll rules items).map (Item.exchange c) := by
  induction rules generalizing items with
  | nil => rfl
  | cons rule rules ih =>
    have hrest := ih (hitems.box_rule rule)
    rw [← rule.box_exchange hc hitems.lineEndsWhole] at hrest
    exact hrest

-- ---------------------------------------------------------------------------
-- Escaping and printing
-- ---------------------------------------------------------------------------

theorem joinLineEnds_exchange (hreturn : Kept c '\r') (hfeed : Kept c '\n') (source : Text) :
    Text.joinLineEnds (source.map (exchange c)) =
      (Text.joinLineEnds source).map (exchange c) := by
  fun_induction Text.joinLineEnds source with
  | case1 rest ih =>
    have hreturn' : exchange c '\r' = '\r' := (exchange_eq_iff hreturn).mpr rfl
    have hfeed' : exchange c '\n' = '\n' := (exchange_eq_iff hfeed).mpr rfl
    rw [List.map_cons, List.map_cons, hreturn', hfeed', Text.joinLineEnds, ih, List.map_cons,
      hfeed']
  | case2 d rest hpair ih =>
    rw [List.map_cons, Text.joinLineEnds, ih, List.map_cons]
    -- no pair comes into being
    intro rest' hd heq
    cases rest with
    | nil => cases heq
    | cons e rest =>
      rw [List.map_cons, List.cons.injEq, exchange_eq_iff hfeed] at heq
      exact hpair rest ((exchange_eq_iff hreturn).mp hd) (by rw [heq.1])
  | case3 => rfl

theorem character_exchange (hplain : Escape.IsPlain c) (d : Char) :
    Escape.character (exchange c d) = (Escape.character d).map (exchange c) := by
  by_cases hd : d = sentinel
  · subst hd
    have hsentinel : exchange c sentinel = c := if_pos rfl
    rw [Escape.character_of_isPlain (by decide : Escape.IsPlain sentinel), List.map_singleton,
      hsentinel, Escape.character_of_isPlain hplain]
  · have hnone : sentinel ∉ Escape.character d := by
      by_cases hd' : Escape.IsPlain d
      · rw [Escape.character_of_isPlain hd']
        simpa using Ne.symm hd
      · obtain ⟨entity, hmem, n, heq⟩ := Escape.character_of_not_isPlain hd'
        have hentities : ∀ entity ∈ entities, sentinel ∉ entity := by decide
        rw [heq]
        simpa using fun _ => hentities entity hmem
    rw [map_exchange_of_notMem hnone, exchange, if_neg hd]

theorem plain_exchange (hc : IsOrdinary c) (source : Text) :
    Escape.plain (source.map (exchange c)) = (Escape.plain source).map (exchange c) := by
  rw [Escape.plain, Escape.plain, joinLineEnds_exchange (kept_of_not_isOrdinary hc (by decide))
    (kept_of_not_isOrdinary hc (by decide)), List.flatMap_map, List.map_flatMap]
  congr 1
  funext d
  exact character_exchange hc.isPlain d

mutual
theorem render_exchange (c : Char) : (item : Item) →
    (item.exchange c).render = item.render.map (exchange c)
  | .char d => rfl
  | .box category content => by
    rw [Item.exchange, Item.render, Item.render, renderAll_exchangeAll c content, Category.wrap,
      Category.wrap, List.map_append, List.map_append,
      map_exchange_of_notMem category.sentinel_notMem_openTag,
      map_exchange_of_notMem Category.sentinel_notMem_closeTag]
theorem renderAll_exchangeAll (c : Char) : (items : List Item) →
    Item.renderAll (Item.exchangeAll c items) = (Item.renderAll items).map (exchange c)
  | [] => rfl
  | item :: items => by
    rw [Item.exchangeAll, Item.renderAll, Item.renderAll, render_exchange c item,
      renderAll_exchangeAll c items, List.map_append]
end

theorem boxedSource_exchange (rules : List Rule) (hc : IsOrdinary c) (source : Text) :
    boxedSource rules (source.map (exchange c)) =
      (boxedSource rules source).map (Item.exchange c) := by
  have hwhole : Whole (Item.ofText (Escape.plain source ++ lineEnd)) :=
    whole_iff.mpr (content_ofText_plain_lineEnd source)
  have hend : lineEnd.map (exchange c) = lineEnd := map_exchange_of_notMem (by decide) c
  rw [boxedSource, boxedSource, plain_exchange hc, ← boxAll_exchange rules hc hwhole,
    Item.map_exchange_ofText, List.map_append, hend]

/-- Putting an ordinary character for every sentinel before highlighting comes to the same as
doing so afterwards. -/
theorem highlight_replaceChar_sentinel (source : Text) (c : Char)
    (h : source.length ≤ 10 ^ maxDigits) (hc : IsOrdinary c) :
    ∃ markup, highlight source = .ok markup ∧
      highlight (Text.replaceChar sentinel [c] source) =
        .ok (Text.replaceChar sentinel [c] markup) := by
  obtain ⟨items, hboxed⟩ := exists_boxedSource_eq Rule.all source
  have hboxed' : boxedSource Rule.all (source.map (exchange c)) =
      items.map (Item.exchange c) ++ Item.ofText lineEnd := by
    rw [boxedSource_exchange Rule.all hc, hboxed, List.map_append, Item.map_exchange_ofText,
      map_exchange_of_notMem (by decide)]
  have hsize := size_classifySource_le h
  have hsize' : (classifySource (source.map (exchange c))).table.size ≤ 10 ^ maxDigits :=
    size_classifySource_le (by rwa [List.length_map])
  refine ⟨Item.renderAll items, highlight_of_resolve (resolve_classifySource hsize hboxed), ?_⟩
  rw [replaceChar_sentinel, replaceChar_sentinel, ← renderAll_exchangeAll,
    Item.exchangeAll_eq_map]
  exact highlight_of_resolve (resolve_classifySource hsize' hboxed')

/-- A source that looks like a token and like a line end, with `>` for its sentinels. -/
theorem highlight_replaceChar_sentinel_lineEnd :
    "'$0;' <br$ end $".toList.length ≤ 10 ^ maxDigits ∧ IsOrdinary '>' ∧
      ∃ markup, highlight "'$0;' <br$ end $".toList = .ok markup ∧
        highlight "'>0;' <br> end >".toList = .ok (Text.replaceChar sentinel ['>'] markup) := by
  have hlength := le_pow_maxDigits (by decide : "'$0;' <br$ end $".toList.length ≤ _)
  have hordinary : IsOrdinary '>' := by decide
  exact ⟨hlength, hordinary,
    highlight_replaceChar_sentinel "'$0;' <br$ end $".toList '>' hlength hordinary⟩

end LuaMarkup
