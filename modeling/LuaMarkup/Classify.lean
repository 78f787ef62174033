import LuaMarkup.Escape
import LuaMarkup.Rule

/-!
Classification of a working text. Every match of a rule is stored in the table in the markup
of the rule's category and leaves its token behind, so that a later rule cannot see into it.
-/

namespace LuaMarkup

/-- A match as it is reported. -/
structure Match where
  rule : Rule
  matched : Text
  context : Text
deriving DecidableEq, Repr

/-- A draft with all the matches that led to it, in order. -/
structure Classified extends Draft where
  trace : List Match
deriving DecidableEq, Repr

namespace Segment

/-- The text of the segments with each match replaced by a token, numbered from `next`. The
context of a match stays. -/
def withTokens (next : Nat) : List (Segment Char) → Text
  | [] => []
  | .plain c :: rest => c :: withTokens next rest
  | .hit _ context :: rest => Token.write next ++ context ++ withTokens (next + 1) rest

def reports (rule : Rule) : List (Segment Char) → List Match
  | [] => []
  | .plain _ :: rest => reports rule rest
  | .hit matched context :: rest => ⟨rule, matched, context⟩ :: reports rule rest

end Segment

def Match.markup (m : Match) : Text :=
  m.rule.category.wrap m.matched

namespace Rule

/-- One pass of these patterns, reported as matches of a rule. -/
def applyWith (rule : Rule) (patterns : List Pattern)
    (hp : ∀ pattern ∈ patterns, pattern.Advances) (draft : Draft) : Classified :=
  let segments := Pattern.segments patterns hp draft.text
  let trace := Segment.reports rule segments
  { text := Segment.withTokens draft.table.size segments
    table := draft.table.append (trace.map Match.markup)
    trace }

/-- One pass of one rule. -/
def apply (rule : Rule) (draft : Draft) : Classified :=
  rule.applyWith rule.alternatives (fun _ => advances_of_mem) draft

theorem apply_eq (rule : Rule) (draft : Draft) : rule.apply draft =
    { text := Segment.withTokens draft.table.size (rule.segments draft.text)
      table := draft.table.append
        ((Segment.reports rule (rule.segments draft.text)).map Match.markup)
      trace := Segment.reports rule (rule.segments draft.text) } := rfl

end Rule

/-- The passes of the rules in order, each over what the one before it left. -/
def classify : List Rule → Draft → Classified
  | [], draft => { draft with trace := [] }
  | rule :: rules, draft =>
    let first := rule.apply draft
    let last := classify rules first.toDraft
    { last with trace := first.trace ++ last.trace }

end LuaMarkup
