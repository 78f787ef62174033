import LuaMarkup.Escape
import LuaMarkup.Proofs.Expansion

/-!
# Escaping in one pass

`Escape.plain` writes each character of a source on its own, the sentinel as it is.
`markup_eq`: the replacements of `Escape.markup`, each of which searches what those before it
put in, come to this and a line end. `escapeSource_eq`: a draft starts from it, whether or not
it holds a sentinel. Storing the sentinels one at a time (`suspendSentinels`) gives the same
(`escapeSource_eq_write`).
-/

namespace LuaMarkup

/-- The markup that escaping puts for a character. -/
def entities : List Text :=
  ["&amp;".toList, "&lt;".toList, lineEnd, spaceMarkup]

namespace Escape

/-- Escaping leaves the character as it is. -/
def IsPlain (c : Char) : Prop :=
  c ∉ ['&', '<', '\n', '\t', ' ']

instance (c : Char) : Decidable (IsPlain c) :=
  inferInstanceAs (Decidable (c ∉ _))

def character (c : Char) : Text :=
  if c = '&' then "&amp;".toList
  else if c = '<' then "&lt;".toList
  else if c = '\n' then lineEnd
  else if c = '\t' then tabSpaces.flatMap fun _ => spaceMarkup
  else if c = ' ' then spaceMarkup
  else [c]

def plain (source : Text) : Text :=
  (Text.joinLineEnds source).flatMap character

theorem character_of_isPlain {c : Char} (h : IsPlain c) : character c = [c] := by
  simp only [IsPlain, List.mem_cons, List.not_mem_nil, or_false, not_or] at h
  simp [character, h]

theorem eq_of_not_isPlain {c : Char} (h : ¬IsPlain c) :
    c = '&' ∨ c = '<' ∨ c = '\n' ∨ c = '\t' ∨ c = ' ' := by
  simpa only [IsPlain, List.mem_cons, List.not_mem_nil, or_false, Decidable.not_not] using h

theorem character_of_not_isPlain {c : Char} (h : ¬IsPlain c) :
    ∃ entity ∈ entities, ∃ n, character c = (List.replicate n entity).flatten := by
  rcases eq_of_not_isPlain h with rfl | rfl | rfl | rfl | rfl
  · exact ⟨"&amp;".toList, by decide, 1, by decide⟩
  · exact ⟨"&lt;".toList, by decide, 1, by decide⟩
  · exact ⟨lineEnd, by decide, 1, by decide⟩
  · exact ⟨spaceMarkup, by decide, 4, by decide⟩
  · exact ⟨spaceMarkup, by decide, 1, by decide⟩

/-- A character stands for itself or for markup. -/
theorem mem_character {c d : Char} (h : d ∈ character c) : d = c ∨ d ∈ entities.flatten := by
  by_cases hplain : IsPlain c
  · rw [character_of_isPlain hplain] at h
    exact .inl (List.mem_singleton.mp h)
  · obtain ⟨entity, hentity, n, heq⟩ := character_of_not_isPlain hplain
    rw [heq] at h
    obtain ⟨copy, hcopy, hd⟩ := List.mem_flatten.mp h
    obtain rfl := List.eq_of_mem_replicate hcopy
    exact .inr (List.mem_flatten.mpr ⟨copy, hentity, hd⟩)

theorem character_ne_nil (c : Char) : character c ≠ [] := by
  by_cases hplain : IsPlain c
  · rw [character_of_isPlain hplain]
    exact List.cons_ne_nil c []
  · rcases eq_of_not_isPlain hplain with rfl | rfl | rfl | rfl | rfl <;> decide

/-- The characters that are replaced before line ends are joined. -/
def reference (c : Char) : Text :=
  if c = '&' then "&amp;".toList else if c = '<' then "&lt;".toList else [c]

theorem replaceChar_append (c : Char) (replacement left right : Text) :
    Text.replaceChar c replacement (left ++ right) =
      Text.replaceChar c replacement left ++ Text.replaceChar c replacement right :=
  List.flatMap_append

theorem replaceChar_flatMap (c : Char) (replacement : Text) (f : Char → Text) (text : Text) :
    Text.replaceChar c replacement (text.flatMap f) =
      text.flatMap fun d => Text.replaceChar c replacement (f d) :=
  List.flatMap_assoc

theorem replace_references (source : Text) :
    Text.replaceChar '<' "&lt;".toList (Text.replaceChar '&' "&amp;".toList source) =
      source.flatMap reference := by
  rw [show Text.replaceChar '&' "&amp;".toList source = source.flatMap _ from rfl,
    replaceChar_flatMap]
  congr 1
  funext c
  by_cases hamp : c = '&'
  · subst hamp
    rfl
  · by_cases hlt : c = '<'
    · subst hlt
      rfl
    · simp [reference, Text.replaceChar, hamp, hlt]

theorem joinLineEnds_cons {c : Char} (h : c ≠ '\r') (rest : Text) :
    Text.joinLineEnds (c :: rest) = c :: Text.joinLineEnds rest := by
  rw [Text.joinLineEnds]
  rintro - rfl
  contradiction

theorem joinLineEnds_append {text : Text} (h : '\r' ∉ text) (rest : Text) :
    Text.joinLineEnds (text ++ rest) = text ++ Text.joinLineEnds rest := by
  induction text with
  | nil => rfl
  | cons c text ih =>
    obtain ⟨hc, htext⟩ := not_or.mp fun hor => h (List.mem_cons.mpr hor)
    rw [List.cons_append, joinLineEnds_cons (Ne.symm hc), ih htext, List.cons_append]

/-- No pair is joined across a seam that has no return before it or no line feed behind it. -/
theorem joinLineEnds_append_of_seam {front back : Text}
    (h : front.getLast? = some '\r' → back.head? ≠ some '\n') :
    Text.joinLineEnds (front ++ back) = Text.joinLineEnds front ++ Text.joinLineEnds back := by
  have htail : ∀ {c : Char} {rest : Text},
      ((c :: rest).getLast? = some '\r' → back.head? ≠ some '\n') →
        rest.getLast? = some '\r' → back.head? ≠ some '\n' := by
    intro c rest hseam hlast
    exact hseam (by rw [List.getLast?_cons, hlast]; rfl)
  fun_induction Text.joinLineEnds front with
  | case1 rest ih =>
    rw [List.cons_append, List.cons_append, Text.joinLineEnds, ih (htail (htail h))]
    rfl
  | case2 c rest hpair ih =>
    rw [List.cons_append, Text.joinLineEnds, ih (htail h)]
    · rfl
    · rintro rest' rfl heq
      cases rest with
      | nil =>
        have hback : back = '\n' :: rest' := heq
        exact h rfl (by rw [hback]; rfl)
      | cons d rest =>
        obtain ⟨rfl, -⟩ := List.cons.inj heq
        exact hpair rest rfl rfl
  | case3 => rfl

theorem getLast?_joinLineEnds (text : Text) :
    (Text.joinLineEnds text).getLast? = text.getLast? := by
  fun_induction Text.joinLineEnds text with
  | case1 rest ih => simp [List.getLast?_cons, ih]
  | case2 c rest _ ih => simp [List.getLast?_cons, ih]
  | case3 => rfl

/-- Only a line feed can come to stand in front. -/
theorem head?_of_joinLineEnds {text : Text} (hc : c ≠ '\n')
    (h : (Text.joinLineEnds text).head? = some c) : text.head? = some c := by
  fun_cases Text.joinLineEnds text with
  | case1 rest => exact absurd (Option.some.inj h).symm hc
  | case2 d rest hpair =>
    rw [Text.joinLineEnds] at h
    · exact h
    · exact hpair
  | case3 => exact h

theorem joinLineEnds_return_cons {c : Char} (h : c ≠ '\n') (rest : Text) :
    Text.joinLineEnds ('\r' :: c :: rest) = '\r' :: Text.joinLineEnds (c :: rest) := by
  rw [Text.joinLineEnds]
  rintro _ - heq
  exact h (List.cons.inj heq).1

theorem return_notMem_reference {c : Char} (h : c ≠ '\r') : '\r' ∉ reference c := by
  unfold reference
  split
  · decide
  · split
    · decide
    · simpa using Ne.symm h

theorem reference_ne_nil (c : Char) : reference c ≠ [] := by
  unfold reference
  split
  · decide
  · split <;> simp

/-- What is put for a character starts with a line feed only if it is one. -/
theorem head?_reference {c : Char} (h : c ≠ '\n') : (reference c).head? ≠ some '\n' := by
  unfold reference
  split
  · decide
  · split
    · decide
    · simpa using h

/-- A line end that is joined before references and a closing line end are put is joined after
that, and no other is. -/
theorem joinLineEnds_flatMap_reference (source : Text) :
    Text.joinLineEnds (source.flatMap reference ++ lineEnd) =
      (Text.joinLineEnds source).flatMap reference ++ lineEnd := by
  fun_induction Text.joinLineEnds source with
  | case1 rest ih =>
    have hpair : ('\r' :: '\n' :: rest).flatMap reference ++ lineEnd =
        '\r' :: '\n' :: (rest.flatMap reference ++ lineEnd) := rfl
    rw [hpair, Text.joinLineEnds, ih]
    rfl
  | case2 c rest hpair ih =>
    rw [List.flatMap_cons, List.flatMap_cons, List.append_assoc, List.append_assoc, ← ih]
    by_cases hc : c = '\r'
    · subst hc
      have hnext : ∃ d tail, rest.flatMap reference ++ lineEnd = d :: tail ∧ d ≠ '\n' := by
        cases rest with
        | nil => exact ⟨_, _, rfl, by decide⟩
        | cons d rest =>
          have hd : d ≠ '\n' := fun heq => hpair rest rfl (by rw [heq])
          obtain ⟨first, others, heq⟩ := List.exists_cons_of_ne_nil (reference_ne_nil d)
          refine ⟨first, _, by rw [List.flatMap_cons, heq]; rfl, ?_⟩
          simpa [heq] using head?_reference hd
      obtain ⟨d, tail, heq, hd⟩ := hnext
      rw [heq]
      exact joinLineEnds_return_cons hd tail
    · exact joinLineEnds_append (return_notMem_reference hc) _
  | case3 => decide

theorem layout_reference (c : Char) :
    Text.replaceChar ' ' spaceMarkup (Text.replaceChar '\t' tabSpaces
      (Text.replaceChar '\n' lineEnd (reference c))) = character c := by
  by_cases hamp : c = '&'
  · subst hamp
    decide
  by_cases hlt : c = '<'
  · subst hlt
    decide
  by_cases hfeed : c = '\n'
  · subst hfeed
    decide
  by_cases htab : c = '\t'
  · subst htab
    decide
  by_cases hspace : c = ' '
  · subst hspace
    decide
  simp [reference, character, Text.replaceChar, hamp, hlt, hfeed, htab, hspace]

theorem layout_lineEnd :
    Text.replaceChar ' ' spaceMarkup (Text.replaceChar '\t' tabSpaces
      (Text.replaceChar '\n' lineEnd lineEnd)) = lineEnd := by
  decide

theorem markup_eq (source : Text) : markup source = plain source ++ lineEnd := by
  rw [markup, replace_references]
  simp only [joinLineEnds_flatMap_reference, replaceChar_append, replaceChar_flatMap,
    layout_reference, layout_lineEnd]
  rfl

-- ---------------------------------------------------------------------------
-- Sentinels
-- ---------------------------------------------------------------------------

/-- Characters written one by one, each sentinel as the token of the next index. -/
def write (next : Nat) : Text → Text
  | [] => []
  | c :: rest =>
    if c = sentinel then Token.write next ++ write (next + 1) rest
    else character c ++ write next rest

theorem write_cons_of_isPlain {c : Char} (hc : c ≠ sentinel) (h : IsPlain c) (next : Nat)
    (rest : Text) : write next (c :: rest) = c :: write next rest := by
  rw [write, if_neg hc, character_of_isPlain h, List.singleton_append]

theorem numberSentinels_of_notMem {text : Text} (h : sentinel ∉ text) (next : Nat) :
    numberSentinels next text = text := by
  induction text with
  | nil => rfl
  | cons c text ih =>
    obtain ⟨hc, htext⟩ := not_or.mp fun hor => h (List.mem_cons.mpr hor)
    rw [numberSentinels, if_neg (Ne.symm hc), ih htext]

theorem numberSentinels_append (next : Nat) (front back : Text) :
    numberSentinels next (front ++ back) =
      numberSentinels next front ++ numberSentinels (next + front.count sentinel) back := by
  induction front generalizing next with
  | nil => rfl
  | cons c front ih =>
    rw [List.cons_append, numberSentinels, numberSentinels]
    by_cases hc : c = sentinel
    · subst hc
      rw [if_pos rfl, if_pos rfl, ih, List.append_assoc, List.count_cons_self, Nat.add_assoc,
        Nat.add_comm 1]
    · rw [if_neg hc, if_neg hc, ih, List.cons_append, List.count_cons_of_ne hc]

theorem mem_of_mem_numberSentinels {text : Text} (h : c ∈ numberSentinels next text) :
    c ∈ text ∨ ∃ index, c ∈ Token.write index := by
  induction text generalizing next with
  | nil => cases h
  | cons d text ih =>
    rw [numberSentinels] at h
    split at h
    · rcases List.mem_append.mp h with h | h
      · exact .inr ⟨next, h⟩
      · exact (ih h).imp_left (List.mem_cons_of_mem d)
    · rcases List.mem_cons.mp h with rfl | h
      · exact .inl List.mem_cons_self
      · exact (ih h).imp_left (List.mem_cons_of_mem d)

theorem sentinel_notMem_character {c : Char} (h : c ≠ sentinel) : sentinel ∉ character c := by
  intro hmem
  rcases mem_character hmem with heq | hmem
  · exact h heq.symm
  · exact absurd hmem (by decide)

theorem lineFeed_notMem_plain (source : Text) : '\n' ∉ plain source := by
  rw [plain, List.mem_flatMap]
  rintro ⟨c, -, hmem⟩
  rcases mem_character hmem with rfl | hentity
  · exact absurd hmem (by decide)
  · exact absurd hentity (by decide)

theorem count_sentinel_character (c : Char) :
    (character c).count sentinel = [c].count sentinel := by
  by_cases hc : c = sentinel
  · subst hc
    rfl
  · rw [List.count_eq_zero.mpr (sentinel_notMem_character hc), List.count_cons_of_ne hc,
      List.count_nil]

theorem numberSentinels_flatMap_character (next : Nat) (text : Text) :
    numberSentinels next (text.flatMap character) = write next text := by
  induction text generalizing next with
  | nil => rfl
  | cons c text ih =>
    rw [List.flatMap_cons, numberSentinels_append, count_sentinel_character, ih, write]
    by_cases hc : c = sentinel
    · subst hc
      simp [character, numberSentinels, sentinel]
    · rw [if_neg hc, numberSentinels_of_notMem (sentinel_notMem_character hc),
        List.count_cons_of_ne hc, List.count_nil, Nat.add_zero]

/-- What is written around the sentinels of a source holds none. -/
theorem numberSentinels_plain (next : Nat) (source : Text) :
    numberSentinels next (plain source ++ lineEnd) =
      write next (Text.joinLineEnds source) ++ lineEnd := by
  rw [numberSentinels_append, plain, numberSentinels_flatMap_character,
    numberSentinels_of_notMem (by decide : sentinel ∉ lineEnd)]

theorem count_sentinel_joinLineEnds (source : Text) :
    (Text.joinLineEnds source).count sentinel = source.count sentinel := by
  fun_induction Text.joinLineEnds source with
  | case1 rest ih => simpa [sentinel] using ih
  | case2 c rest _ ih => simp [List.count_cons, ih]
  | case3 => rfl

theorem count_sentinel_plain_lineEnd (source : Text) :
    (plain source ++ lineEnd).count sentinel = source.count sentinel := by
  rw [List.count_append, List.count_eq_zero.mpr (by decide : sentinel ∉ lineEnd), Nat.add_zero,
    plain, ← count_sentinel_joinLineEnds source]
  induction Text.joinLineEnds source with
  | nil => rfl
  | cons c text ih =>
    rw [List.flatMap_cons, List.count_append, ih, count_sentinel_character, ← List.count_append,
      List.singleton_append]

/-- Each sentinel of a text stored when it is met, and its token put in its place. -/
def suspendSentinels (table : Table) : Text → Draft
  | [] => { text := [], table }
  | c :: rest =>
    if c = sentinel then
      let (token, table) := table.suspend [c]
      let draft := suspendSentinels table rest
      { draft with text := token ++ draft.text }
    else
      let draft := suspendSentinels table rest
      { draft with text := c :: draft.text }

theorem suspendSentinels_eq (text : Text) (table : Table) :
    suspendSentinels table text =
      { text := numberSentinels table.size text
        table := table.append (List.replicate (text.count sentinel) [sentinel]) } := by
  induction text generalizing table with
  | nil => simp [suspendSentinels, numberSentinels, Table.append_nil]
  | cons c text ih =>
    rw [suspendSentinels, numberSentinels]
    by_cases hc : c = sentinel
    · subst hc
      simp only [if_true, Table.suspend, ih, Table.size_append, Table.append_append,
        List.count_cons_self, List.replicate_succ, List.length_singleton, List.singleton_append]
    · rw [if_neg hc, if_neg hc, ih, List.count_cons_of_ne hc]

end Escape

theorem escapeSource_eq (source : Text) (table : Table) :
    escapeSource source table =
      { text := Escape.numberSentinels table.size (Escape.plain source ++ lineEnd)
        table := table.append
          (List.replicate ((Escape.plain source ++ lineEnd).count sentinel) [sentinel]) } := by
  rw [escapeSource, Escape.markup_eq]
  split
  · rfl
  · rename_i hnone
    have hnone : sentinel ∉ Escape.plain source ++ lineEnd := by simpa using hnone
    rw [Escape.numberSentinels_of_notMem hnone, List.count_eq_zero.mpr hnone]
    rw [List.replicate_zero, Table.append_nil]

/-- The replacements write the joined lines of a source character by character, a line end behind
them, and store the sentinels in order. A source without sentinels is no case of its own: the
sentinels of the replaced text are stored one at a time, if there are any. -/
theorem escapeSource_eq_write (source : Text) (table : Table) :
    escapeSource source table =
        { text := Escape.write table.size (Text.joinLineEnds source) ++ lineEnd
          table := table.append (List.replicate (source.count sentinel) [sentinel]) } ∧
      escapeSource source table = Escape.suspendSentinels table (Escape.markup source) := by
  rw [Escape.markup_eq, Escape.suspendSentinels_eq, escapeSource_eq]
  refine ⟨?_, rfl⟩
  rw [Escape.numberSentinels_plain, Escape.count_sentinel_plain_lineEnd]

/-- Returns stay unless a line feed follows them, and inserted markup is not escaped again. -/
example : (escapeSource "\r\r\n&lt;\t$1;$\r".toList ⟨#[['a'], ['b']]⟩).text =
    ("\r<br>&amp;lt;<wbr>&nbsp;<wbr>&nbsp;<wbr>&nbsp;<wbr>&nbsp;$2;1;$3;\r<br>").toList := by
  decide +kernel

end LuaMarkup
