import LuaMarkup.Table
import LuaMarkup.Proofs.Token

/-!
# Expansion piece by piece

`Table.expandText` is the expansion of a text under a limit, of which resolution is the case
with the size of the table as the limit. Its equations follow the text: a character that is no
sentinel stays, and a written token of a stored text gives way to that text's expansion, with
room for two calls less. Pieces one behind the other are expanded each on its own
(`expand_append`). What is appended to a table changes nothing that was stored before
(`get?_append_of_lt`).
-/

namespace LuaMarkup.Table

theorem entries_append (table : Table) (texts : List Text) :
    (table.append texts).entries = table.entries ++ texts.toArray :=
  Array.ext' (by simp [append])

theorem size_append (table : Table) (texts : List Text) :
    (table.append texts).size = table.size + texts.length := by
  simp [size, entries_append]

theorem append_nil (table : Table) : table.append [] = table := by
  simp [append]

theorem append_append (table : Table) (first second : List Text) :
    (table.append first).append second = table.append (first ++ second) :=
  congrArg Table.mk (Array.ext' (by simp [append]))

theorem index_lt_of_get? {table : Table} (h : table.get? index = some stored) :
    index < table.size :=
  (Array.getElem?_eq_some_iff.mp h).1

theorem exists_get?_eq_some {table : Table} {index : Nat} (h : index < table.size) :
    ∃ stored, table.get? index = some stored :=
  ⟨_, Array.getElem?_eq_getElem h⟩

theorem get?_append_of_lt {table : Table} {index : Nat} (h : index < table.size)
    (texts : List Text) : (table.append texts).get? index = table.get? index := by
  have h : index < table.entries.size := h
  simp [get?, entries_append, Array.getElem?_append, h]

theorem get?_append_size_add (table : Table) (texts : List Text) (k : Nat) :
    (table.append texts).get? (table.size + k) = texts[k]? := by
  simp only [get?, size, entries_append, Array.getElem?_append_right (Nat.le_add_right ..)]
  simp

def expandText (table : Table) (room limit : Nat) (text : Text) : Except ResolveError Text :=
  table.expand room limit (Piece.split text)

theorem resolveWithin_eq (table : Table) (room : Nat) (text : Text) :
    table.resolveWithin room text = table.expandText room table.size text := rfl

variable {table : Table} {room limit : Nat}

-- ---------------------------------------------------------------------------
-- Pieces one behind the other
-- ---------------------------------------------------------------------------

/-- Two texts one behind the other. -/
def inTurn (first second : Except ResolveError Text) : Except ResolveError Text := do
  return (← first) ++ (← second)

theorem inTurn_ok (head tail : Text) : inTurn (.ok head) (.ok tail) = .ok (head ++ tail) := rfl

theorem inTurn_ok_nil (first : Except ResolveError Text) : inTurn first (.ok []) = first := by
  cases first with
  | error => rfl
  | ok head => rw [inTurn_ok, List.append_nil]

theorem inTurn_assoc (first second third : Except ResolveError Text) :
    inTurn (inTurn first second) third = inTurn first (inTurn second third) := by
  cases first with
  | error => rfl
  | ok head =>
    cases second with
    | error => rfl
    | ok middle =>
      cases third with
      | error => rfl
      | ok tail => simp only [inTurn_ok, List.append_assoc]

theorem expand_nil (room limit : Nat) : table.expand room limit [] = .ok [] := by
  rw [expand]

theorem expand_cons (room limit : Nat) (piece : Piece) (pieces : List Piece) :
    table.expand room limit (piece :: pieces) =
      inTurn (table.expand room limit [piece]) (table.expand room limit pieces) := by
  cases piece with
  | char c =>
    rw [expand, expand, expand_nil]
    rfl
  | token digits =>
    rw [expand, expand, expand_nil]
    rcases room with _ | room
    · rfl
    · cases readNumeral digits with
      | error => rfl
      | ok index =>
        simp only [enter, Except.mapError, bind, Except.bind]
        -- the three ways in which a token gives a text
        split
        · split
          · rcases room with _ | room
            · rfl
            · exact congrArg (inTurn · _) (inTurn_ok_nil _).symm
          · exact congrArg (inTurn · _) (inTurn_ok_nil (.ok _)).symm
        · exact congrArg (inTurn · _) (inTurn_ok_nil (.ok _)).symm

theorem expand_append (room limit : Nat) (front back : List Piece) :
    table.expand room limit (front ++ back) =
      inTurn (table.expand room limit front) (table.expand room limit back) := by
  induction front with
  | nil =>
    rw [expand_nil, List.nil_append]
    cases table.expand room limit back <;> rfl
  | cons piece front ih =>
    rw [List.cons_append, expand_cons, ih, ← inTurn_assoc, ← expand_cons]

-- ---------------------------------------------------------------------------
-- One piece
-- ---------------------------------------------------------------------------

theorem expand_char (room limit : Nat) (c : Char) :
    table.expand room limit [.char c] = .ok [c] := by
  rw [expand, expand_nil]
  rfl

/-- No token can be looked up without a call. -/
theorem expand_token_zero (limit : Nat) (digits : Text) :
    table.expand 0 limit [.token digits] = .error .tooDeep := by
  rw [expand]
  rfl

/-- A stored text takes a call of its own. -/
theorem expand_token_one {digits : Text} (hread : readNumeral digits = .ok index)
    (hindex : index < limit) (hstored : table.get? index = some stored) :
    table.expand 1 limit [.token digits] = .error .tooDeep := by
  rw [expand, hread, expand_nil]
  simp only [enter, Except.mapError, bind, Except.bind, hindex, ↓reduceIte, hstored]

theorem expand_token_of_get? {digits : Text} (hread : readNumeral digits = .ok index)
    (hindex : index < limit) (hstored : table.get? index = some stored) :
    table.expand (room + 2) limit [.token digits] = table.expandText room index stored := by
  rw [expand, hread, expand_nil]
  simp only [enter, Except.mapError, bind, Except.bind, hindex, ↓reduceIte, hstored]
  exact inTurn_ok_nil (table.expandText room index stored)

theorem expand_token_of_le {digits : Text} (hread : readNumeral digits = .ok index)
    (hindex : limit ≤ index) :
    table.expand (room + 1) limit [.token digits] = .ok (Token.spell digits) := by
  rw [expand, hread, expand_nil]
  simp only [enter, Except.mapError, bind, Except.bind, Nat.not_lt.mpr hindex, ↓reduceIte]
  exact inTurn_ok_nil (.ok (Token.spell digits))

theorem expand_token_of_error {digits : Text} (hread : readNumeral digits = .error e) :
    table.expand (room + 1) limit [.token digits] = .error (.tooManyDigits e) := by
  rw [expand, hread]
  rfl

-- ---------------------------------------------------------------------------
-- Texts
-- ---------------------------------------------------------------------------

theorem expandText_nil : table.expandText room limit [] = .ok [] := by
  rw [expandText, Piece.split, expand_nil]

theorem expandText_cons {c : Char} (h : c ≠ sentinel) (rest : Text) :
    table.expandText room limit (c :: rest) = (table.expandText room limit rest).map (c :: ·) := by
  rw [expandText, Piece.split_cons h, expand_cons, expand_char]
  rfl

theorem expandText_sentinel : table.expandText room limit [sentinel] = .ok [sentinel] := by
  rw [expandText, Piece.split_sentinel, expand_char]

theorem expandText_write_append {index : Nat} (hindex : index < limit)
    (hdigits : index < 10 ^ maxDigits) (hstored : table.get? index = some stored) (rest : Text) :
    table.expandText (room + 2) limit (Token.write index ++ rest) =
      inTurn (table.expandText room index stored) (table.expandText (room + 2) limit rest) := by
  rw [expandText, Piece.split_write_append, expand_cons,
    expand_token_of_get? (readNumeral_toDigits hdigits) hindex hstored, expandText, expandText]

/-- Characters that are no sentinels stay in front of what follows them. -/
theorem expandText_append_of_notMem {text : Text} (h : sentinel ∉ text)
    (hrest : table.expandText room limit rest = .ok out) :
    table.expandText room limit (text ++ rest) = .ok (text ++ out) := by
  induction text with
  | nil => exact hrest
  | cons c text ih =>
    obtain ⟨hc, htext⟩ := not_or.mp fun hor => h (List.mem_cons.mpr hor)
    rw [List.cons_append, expandText_cons (Ne.symm hc), ih htext]
    rfl

theorem expandText_of_notMem {text : Text} (h : sentinel ∉ text) :
    table.expandText room limit text = .ok text := by
  simpa using
    expandText_append_of_notMem h (expandText_nil : table.expandText room limit [] = .ok [])

end LuaMarkup.Table
