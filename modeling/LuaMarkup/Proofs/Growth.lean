import LuaMarkup.Classify
import LuaMarkup.Proofs.BottomUp
import LuaMarkup.Proofs.Escape

/-!
# Tables that grow

Whatever is done to a table stores texts behind its entries and changes none of them
(`Step.exists_on_eq_append`, `exists_after_eq_append`). A stored text is expanded under its own
index as the limit, so it never sees an entry that came later, even if it names one. A text whose
tokens are of the entries that are there therefore keeps its resolution for good
(`resolve_after`).
-/

namespace LuaMarkup

namespace Table

variable {table : Table} {room limit : Nat}

-- ---------------------------------------------------------------------------
-- Steps
-- ---------------------------------------------------------------------------

/-- What may be done to a table, apart from reading it. -/
inductive Step where
  | suspend (text : Text)
  | wrap (category text : Text)
  | escape (source : Text)
  | apply (rule : Rule) (text : Text)
  | classify (rules : List Rule) (text : Text)
deriving DecidableEq, Repr

/-- The table after a step. One that fails stores nothing. -/
def Step.on (table : Table) : Step → Table
  | .suspend text => (table.suspend text).2
  | .wrap category text =>
    match table.wrapNamed category text with
    | .ok (_, table) => table
    | .error _ => table
  | .escape source => (escapeSource source table).table
  | .apply rule text => (rule.apply { text, table }).table
  | .classify rules text => (LuaMarkup.classify rules { text, table }).table

/-- The table after steps in turn. -/
def after (table : Table) (steps : List Step) : Table :=
  steps.foldl Step.on table

/-- Classifying stores what it reports. -/
theorem table_classify (rules : List Rule) (draft : Draft) :
    (classify rules draft).table =
      draft.table.append ((classify rules draft).trace.map Match.markup) := by
  induction rules generalizing draft with
  | nil => exact draft.table.append_nil.symm
  | cons rule rules ih =>
    rw [classify, ih]
    simp only [List.map_append, ← append_append]
    rfl

theorem Step.exists_on_eq_append (step : Step) (table : Table) :
    ∃ texts, step.on table = table.append texts := by
  cases step with
  | suspend text => exact ⟨[text], rfl⟩
  | wrap category text =>
    simp only [on, wrapNamed]
    cases Category.ofName? (String.ofList category) with
    | none => exact ⟨[], table.append_nil.symm⟩
    | some category => exact ⟨[category.wrap text], rfl⟩
  | escape source => exact ⟨_, by rw [on, escapeSource_eq]⟩
  | apply rule text => exact ⟨_, rfl⟩
  | classify rules text => exact ⟨_, table_classify rules { text, table }⟩

/-- Steps store texts behind the entries of a table, and do nothing else to it. -/
theorem exists_after_eq_append (table : Table) (steps : List Step) :
    ∃ texts, table.after steps = table.append texts := by
  induction steps generalizing table with
  | nil => exact ⟨[], table.append_nil.symm⟩
  | cons step steps ih =>
    obtain ⟨first, hfirst⟩ := step.exists_on_eq_append table
    obtain ⟨rest, hrest⟩ := ih (step.on table)
    refine ⟨first ++ rest, ?_⟩
    rw [← append_append, ← hfirst, ← hrest]
    rfl

-- ---------------------------------------------------------------------------
-- What later entries do not change
-- ---------------------------------------------------------------------------

/-- Pieces expand alike if their tokens do that can be read and that there is room for. Any other
token fails everywhere. -/
theorem expand_eq_of_tokens {table' : Table} {limit' : Nat} {pieces : List Piece}
    (h : ∀ digits, .token digits ∈ pieces → readNumeral digits = .ok (numeralValue digits) →
      0 < room →
        table'.expand room limit' [.token digits] = table.expand room limit [.token digits]) :
    table'.expand room limit' pieces = table.expand room limit pieces := by
  induction pieces with
  | nil => rw [expand_nil, expand_nil]
  | cons piece pieces ih =>
    have hpieces := ih fun digits hmem => h digits (List.mem_cons_of_mem piece hmem)
    rw [expand_cons, hpieces, expand_cons room limit]
    cases piece with
    | char c => rw [expand_char, expand_char]
    | token digits =>
      rcases room with _ | room
      · rw [expand_token_zero, expand_token_zero]
      by_cases hdigits : digits.length ≤ maxDigits
      · rw [h digits List.mem_cons_self (readNumeral_of_le hdigits) (Nat.succ_pos room)]
      · have hread := readNumeral_of_lt (Nat.not_le.mp hdigits)
        rw [expand_token_of_error hread, expand_token_of_error hread]

/-- Tokens expand alike if their stored texts do. -/
theorem expand_token_eq_of_get? {table' : Table} {limit' : Nat} {digits : Text}
    (hread : readNumeral digits = .ok index) (hindex : index < limit)
    (hstored : table.get? index = some stored) (hindex' : index < limit')
    (hstored' : table'.get? index = some stored) (hroom : 0 < room)
    (h : ∀ below, table'.expandText below index stored = table.expandText below index stored) :
    table'.expand room limit' [.token digits] = table.expand room limit [.token digits] := by
  match room, hroom with
  | 1, _ => rw [expand_token_one hread hindex' hstored', expand_token_one hread hindex hstored]
  | room + 2, _ =>
    rw [expand_token_of_get? hread hindex' hstored', expand_token_of_get? hread hindex hstored, h]

/-- What is appended to a table is out of sight of the limits that it had. -/
theorem expand_append_texts (hlimit : limit ≤ table.size) (texts : List Text)
    (pieces : List Piece) :
    (table.append texts).expand room limit pieces = table.expand room limit pieces := by
  -- a stored text is expanded under its own index, so the limit falls on the way down
  induction limit using Nat.strong_induction_on generalizing room pieces with
  | _ limit ih =>
    refine expand_eq_of_tokens fun digits _ hread hroom => ?_
    by_cases hindex : numeralValue digits < limit
    · have hsize := Nat.lt_of_lt_of_le hindex hlimit
      obtain ⟨stored, hstored⟩ := exists_get?_eq_some hsize
      have hstored' := (get?_append_of_lt hsize texts).trans hstored
      exact expand_token_eq_of_get? hread hindex hstored hindex hstored' hroom fun below =>
        ih _ hindex (Nat.le_of_lt hsize) _
    · have hindex := Nat.not_lt.mp hindex
      obtain ⟨room, rfl⟩ := Nat.exists_eq_add_of_le' hroom
      rw [expand_token_of_le hread hindex, expand_token_of_le hread hindex]

/-- A text whose tokens are of entries of a table is resolved alike, to the same text or the same
failure, before and after any steps on the table, whatever room there is. The entries that the
steps bring are not looked at, even where stored texts name their indices. -/
theorem resolve_after (table : Table) (steps : List Step) (room : Nat) {text : Text}
    (htext : ∀ digits, .token digits ∈ Piece.split text → numeralValue digits < table.size) :
    (table.after steps).resolveWithin room text = table.resolveWithin room text := by
  obtain ⟨texts, hafter⟩ := table.exists_after_eq_append steps
  rw [hafter]
  refine expand_eq_of_tokens fun digits hmem hread hroom => ?_
  have hindex := htext digits hmem
  have hgrown : numeralValue digits < (table.append texts).size := by
    rw [size_append]
    omega
  obtain ⟨stored, hstored⟩ := exists_get?_eq_some hindex
  have hstored' := (get?_append_of_lt hindex texts).trans hstored
  exact expand_token_eq_of_get? hread hindex hstored hgrown hstored' hroom fun below =>
    expand_append_texts (Nat.le_of_lt hindex) texts _

/-- Entries that name each other, themselves and entries to come. -/
def forwardTable : Table :=
  ⟨#["$1;$2;".toList, "$0;$1;$5;".toList]⟩

/-- Steps of every kind, one of which fails. -/
def growthSteps : List Step :=
  [.suspend "new".toList, .wrap "string".toList "$0;".toList, .wrap "none".toList "$0;".toList,
    .escape "$ ".toList, .apply .operator "$1;=".toList, .classify Rule.all "'a'".toList]

theorem resolve_after_forward :
    (∀ digits, .token digits ∈ Piece.split "$1;$00;".toList →
        numeralValue digits < forwardTable.size) ∧
      (forwardTable.after growthSteps).size = 7 ∧
      (forwardTable.after growthSteps).resolve "$1;$00;".toList =
        .ok "$1;$2;$1;$5;$1;$2;".toList := by
  have hsplit : Piece.split "$1;$00;".toList = [.token ['1'], .token ['0', '0']] := by
    decide +kernel
  have htext : ∀ digits, .token digits ∈ Piece.split "$1;$00;".toList →
      numeralValue digits < forwardTable.size := by
    rw [hsplit]
    intro digits hmem
    rcases List.mem_pair.mp hmem with h | h
    · cases h
      decide
    · cases h
      decide
  have hbefore : forwardTable.resolve "$1;$00;".toList = .ok "$1;$2;$1;$5;$1;$2;".toList :=
    resolveWithin_of_length_le (by decide) (by decide) (by decide +kernel)
  exact ⟨htext, by decide +kernel,
    (resolve_after forwardTable growthSteps callRoom htext).trans hbefore⟩

end Table
end LuaMarkup
