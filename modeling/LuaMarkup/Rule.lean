import LuaMarkup.Category
import LuaMarkup.Pattern

/-!
The classifier rules. Each is one pass over a whole text. `Rule.all` lists them in order of
precedence: escapes, strings, comments, operators, keywords.
-/

namespace LuaMarkup

def keywords : List String :=
  ["elseif", "do", "in", "if", "for", "end", "else", "then", "break", "until", "local", "while",
    "return", "function"]

def operators : String := "=()#[]+*-\x7b\x7d"

inductive Rule where
  | doubleBackslash
  | escapedQuote
  | singleQuoted
  | doubleQuoted
  | lineComment
  | operator
  | keyword
deriving DecidableEq, Repr

/-- The patterns of keywords, in the order of these words. A keyword counts only directly before
a tag. -/
def Keyword.patterns (words : List String) : List Pattern :=
  words.map fun word => .each (Pattern.exactly word.toList) ['<']

namespace Rule

def all : List Rule :=
  [.doubleBackslash, .escapedQuote, .singleQuoted, .doubleQuoted, .lineComment, .operator,
    .keyword]

def name : Rule → String
  | .doubleBackslash => "double-backslash"
  | .escapedQuote => "escaped-quote"
  | .singleQuoted => "single-quoted"
  | .doubleQuoted => "double-quoted"
  | .lineComment => "line-comment"
  | .operator => "operator"
  | .keyword => "keyword"

def ofName? (name : String) : Option Rule :=
  all.find? (·.name == name)

theorem ofName?_name (rule : Rule) : ofName? rule.name = some rule := by
  cases rule <;> decide

def category : Rule → Category
  | .doubleBackslash | .escapedQuote => .escape
  | .singleQuoted | .doubleQuoted => .string
  | .lineComment => .comment
  | .operator => .operator
  | .keyword => .keyword

/-- The patterns of a rule, tried in order. A comment leaves the line end after it. -/
def alternatives : Rule → List Pattern
  | .doubleBackslash => [.each [['\\'], ['\\']] []]
  | .escapedQuote => [.each [['\\'], ['"', '\'']] []]
  | .singleQuoted => [.run ['\''] ['\''] []]
  | .doubleQuoted => [.run ['"'] ['"'] []]
  | .lineComment => [.run ['-', '-'] [] "<br>".toList]
  | .operator => [.each [operators.toList] []]
  | .keyword => Keyword.patterns keywords

theorem advances_of_mem {rule : Rule} {pattern : Pattern} (h : pattern ∈ rule.alternatives) :
    pattern.Advances := by
  revert pattern
  cases rule <;> decide

section
variable [Glyph α]

/-- The match of a rule at the start of a sequence. -/
def match? (rule : Rule) (items : List α) : Option (Hit α) :=
  Pattern.first? rule.alternatives items

theorem append_of_match? {rule : Rule} {items : List α} {hit : Hit α}
    (h : rule.match? items = some hit) : items = hit.matched ++ hit.context ++ hit.rest :=
  Pattern.append_of_first? h

theorem matched_ne_nil {rule : Rule} {items : List α} {hit : Hit α}
    (h : rule.match? items = some hit) : hit.matched ≠ [] :=
  Pattern.matched_ne_nil_of_first? (fun _ => advances_of_mem) h

/-- The matches of a rule from left to right, and what lies between them. -/
def segments (rule : Rule) (items : List α) : List (Segment α) :=
  Pattern.segments rule.alternatives (fun _ => advances_of_mem) items

@[simp] theorem segments_nil (rule : Rule) : rule.segments ([] : List α) = [] :=
  Pattern.segments_nil

theorem segments_of_match?_eq_none {rule : Rule} {a : α} {items : List α}
    (h : rule.match? (a :: items) = none) :
    rule.segments (a :: items) = .plain a :: rule.segments items :=
  Pattern.segments_of_first?_eq_none h

theorem segments_of_match? {rule : Rule} {items : List α} {hit : Hit α}
    (h : rule.match? items = some hit) :
    rule.segments items = .hit hit.matched hit.context :: rule.segments hit.rest :=
  Pattern.segments_of_first? h

/-- Induction along the places where a rule is tried. -/
@[elab_as_elim]
theorem induction_on (rule : Rule) {motive : List α → Prop} (items : List α)
    (nil : motive [])
    (hit : ∀ a items hit, rule.match? (a :: items) = some hit → motive hit.rest →
      motive (a :: items))
    (plain : ∀ a items, rule.match? (a :: items) = none → motive items → motive (a :: items)) :
    motive items := by
  fun_induction Pattern.segments rule.alternatives (fun _ => advances_of_mem) items with
  | case1 => exact nil
  | case2 a tail found h _ ih => exact hit a tail found h ih
  | case3 a tail h ih => exact plain a tail h ih

end

end Rule

namespace Segment

def items : Segment α → List α
  | .plain a => [a]
  | .hit matched context => matched ++ context

/-- Cutting loses nothing. -/
theorem flatMap_items_segments [Glyph α] (rule : Rule) (text : List α) :
    (rule.segments text).flatMap items = text := by
  induction text using @Rule.induction_on α _ rule with
  | nil => rw [rule.segments_nil, List.flatMap_nil]
  | hit a tail hit h ih =>
    rw [Rule.segments_of_match? h, List.flatMap_cons, ih, Rule.append_of_match? h]
    rfl
  | plain a tail h ih =>
    rw [Rule.segments_of_match?_eq_none h, List.flatMap_cons, ih]
    rfl

end Segment
end LuaMarkup
