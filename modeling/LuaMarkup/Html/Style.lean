import LuaMarkup.Html.Node
import LuaMarkup.Text.Blank

/-!
Inline styles without their `white-space` declarations.
-/

namespace LuaMarkup.Html.Style

/-- Letters agree without regard to case. The long s counts as an s, and the dotted capital and
the dotless small i count as an i. -/
def sameLetter (letter c : Char) : Bool :=
  c.toLower == letter || (letter == 's' && c == 'ſ') ||
    (letter == 'i' && (c == 'İ' || c == 'ı'))

/-- What follows a property name at the start of a text. -/
def afterName? : (name text : Text) → Option Text
  | [], text => some text
  | _ :: _, [] => none
  | letter :: name, c :: text => if sameLetter letter c then afterName? name text else none

/-- What follows the `white-space` declaration that a text starts with, blanks before the
declaration and the semicolon after it included. -/
def afterDeclaration? (text : Text) : Option Text := do
  let rest ← afterName? "white-space".toList (text.dropWhile Text.isBlank)
  match rest.dropWhile Text.isBlank with
  | [] => none
  | c :: value => if c = ':' then some ((value.dropWhile (· ≠ ';')).drop 1) else none

theorem length_le_of_afterName? {name text rest : Text} (h : afterName? name text = some rest) :
    rest.length ≤ text.length := by
  induction name generalizing text with
  | nil => cases text <;> simp_all [afterName?]
  | cons letter name ih =>
    cases text with
    | nil => simp [afterName?] at h
    | cons c text =>
      simp only [afterName?] at h
      split at h
      · have := ih h
        simp only [List.length_cons]
        omega
      · cases h

theorem length_lt_of_afterDeclaration? {text after : Text}
    (h : afterDeclaration? text = some after) : after.length < text.length := by
  obtain ⟨rest, hrest, h⟩ := Option.bind_eq_some_iff.mp h
  have h₁ := length_le_of_afterName? hrest
  have h₂ := (List.dropWhile_sublist (p := Text.isBlank) (l := text)).length_le
  have h₃ := (List.dropWhile_sublist (p := Text.isBlank) (l := rest)).length_le
  split at h
  · cases h
  · rename_i c value heq
    split at h
    · obtain rfl := Option.some.inj h
      rw [heq, List.length_cons] at h₃
      have h₄ := (List.dropWhile_sublist (p := (· ≠ ';')) (l := value)).length_le
      rw [List.length_drop]
      omega
    · cases h

/-- A style with every `white-space` declaration cut out. -/
def dropDeclarations (style : Text) : Text :=
  match style with
  | [] => []
  | c :: rest =>
    match h : afterDeclaration? (c :: rest) with
    | some after =>
      have := length_lt_of_afterDeclaration? h
      dropDeclarations after
    | none => c :: dropDeclarations rest
termination_by style.length
decreasing_by all_goals simp only [List.length_cons] at *; omega

/-- Attributes whose style has no `white-space` declaration. A style of which nothing is left
is removed; a style without a value is left alone. -/
def dropWhiteSpace (attributes : List Attribute) : List Attribute :=
  match Attribute.get? "style" attributes with
  | none => attributes
  | some style =>
    let remaining := Text.trim (dropDeclarations style)
    if remaining.isEmpty then Attribute.erase "style" attributes
    else Attribute.set "style" remaining attributes

end LuaMarkup.Html.Style
