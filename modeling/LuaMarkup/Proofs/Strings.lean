import LuaMarkup.Proofs.Backslash

/-!
# Strings between quotes

The quotes of one kind cut a text into parts, and every second part is the inside of a string,
whatever stands in it: a pass for strings takes the quotes in pairs from the left
(`Rule.pass_quotes`). So it leaves a quote only if their number is odd, and then the last one
(`strings_pair_quotes`). The pass for double quotes pairs those that the pass for single quotes
has not hidden.
-/

namespace LuaMarkup

namespace Quotes

/-- The strings of a text that quotes cut into these parts. -/
def strings (quote : Char) : List Text → List Text
  | [] | [_] | [_, _] => []
  | _ :: body :: behind :: parts =>
    (quote :: (body ++ [quote])) :: strings quote (behind :: parts)

/-- The text of these parts with tokens, numbered from `next`, in place of its strings. -/
def hide (quote : Char) (next : Nat) : List Text → Text
  | [] => []
  | [last] => last
  | [front, last] => front ++ quote :: last
  | front :: _ :: behind :: parts =>
    front ++ (Token.write next ++ hide quote (next + 1) (behind :: parts))

variable {quote : Char} {parts : List Text}

theorem length_strings (quote : Char) (parts : List Text) :
    (strings quote parts).length = (parts.length - 1) / 2 := by
  fun_induction strings quote parts with
  | case1 | case2 | case3 => simp
  | case4 _ body behind parts ih =>
    simp only [List.length_cons, ih]
    omega

/-- Behind an odd number of parts a string begins. -/
theorem getElem?_strings {outside behind : List Text} (h : outside.length = 2 * k + 1)
    (hbehind : behind ≠ []) (body : Text) :
    (strings quote (outside ++ body :: behind))[k]? = some (quote :: (body ++ [quote])) := by
  obtain ⟨next, behind, rfl⟩ := List.exists_cons_of_ne_nil hbehind
  induction k generalizing outside with
  | zero =>
    obtain ⟨first, rfl⟩ := List.length_eq_one_iff.mp h
    rfl
  | succ k ih =>
    rcases outside with _ | ⟨first, _ | ⟨second, _ | ⟨third, outside⟩⟩⟩
    · cases h
    · simp at h
    · simp only [List.length_cons, List.length_nil] at h
      omega
    · have hrest : (third :: outside).length = 2 * k + 1 := by
        simp only [List.length_cons] at h ⊢
        omega
      exact ih hrest

/-- All quotes are hidden if there is an even number of them. -/
theorem notMem_hide (hquote : quote ∈ ['"', '\'']) (hparts : ∀ part ∈ parts, quote ∉ part)
    (hodd : parts.length % 2 = 1) (next : Nat) : quote ∉ hide quote next parts := by
  fun_induction hide quote next parts with
  | case1 => cases hodd
  | case2 next last => exact hparts last List.mem_cons_self
  | case3 => simp at hodd
  | case4 next front body behind parts ih =>
    obtain ⟨hfront, hparts⟩ := List.forall_mem_cons.mp hparts
    have hbehind := ih (List.forall_mem_cons.mp hparts).2
      (by simp only [List.length_cons] at hodd ⊢; omega)
    simp only [List.mem_append, not_or]
    exact ⟨hfront, quote_notMem_write _ hquote next, hbehind⟩

/-- Of an odd number of quotes the last is left. -/
theorem exists_hide_eq (hquote : quote ∈ ['"', '\'']) (hparts : ∀ part ∈ parts, quote ∉ part)
    (hne : parts ≠ []) (heven : parts.length % 2 = 0) (next : Nat) :
    ∃ front hidden back, [quote].intercalate parts = front ++ quote :: back ∧ quote ∉ back ∧
      hide quote next parts = hidden ++ quote :: back ∧ quote ∉ hidden := by
  fun_induction hide quote next parts with
  | case1 => exact absurd rfl hne
  | case2 => simp at heven
  | case3 next front last =>
    refine ⟨front, front, last, by simp, hparts last ?_, rfl, hparts front List.mem_cons_self⟩
    exact List.mem_cons_of_mem front List.mem_cons_self
  | case4 next first body behind parts ih =>
    obtain ⟨hfirst, hparts⟩ := List.forall_mem_cons.mp hparts
    obtain ⟨front, hidden, back, htext, hback, hhide, hhidden⟩ :=
      ih (List.forall_mem_cons.mp hparts).2 (List.cons_ne_nil behind parts)
        (by simp only [List.length_cons] at heven ⊢; omega)
    refine ⟨first ++ [quote] ++ (body ++ [quote] ++ front), first ++ (Token.write next ++ hidden),
      back, ?_, hback, ?_, ?_⟩
    · rw [List.intercalate_cons_cons, List.intercalate_cons_cons, htext]
      simp
    · rw [hhide]
      simp
    · simp only [List.mem_append, not_or]
      exact ⟨hfirst, quote_notMem_write _ hquote next, hhidden⟩

end Quotes

-- ---------------------------------------------------------------------------
-- A pass
-- ---------------------------------------------------------------------------

namespace Rule

variable {rule : Rule} {q : Char}

theorem notMem_openers_of_quote? (hquote : rule.quote? = some q) {front : Text} (h : q ∉ front) :
    ∀ c ∈ front, c ∉ rule.openers := by
  cases rule with
  | singleQuoted | doubleQuoted =>
    obtain rfl := Option.some.inj hquote
    intro c hc hmem
    obtain rfl := List.mem_singleton.mp hmem
    exact h hc
  | _ => cases hquote

theorem match?_quote_of_notMem (hquote : rule.quote? = some q) {back : Text} (hback : q ∉ back) :
    rule.match? (q :: back) = none := by
  rw [match?_eq_none_iff]
  rintro m c r haccepts heq
  obtain ⟨⟨first, body, last, rfl, -, -, hlast⟩, rfl⟩ := (accepts_of_quote? hquote).mp haccepts
  obtain rfl := Option.some.inj hlast
  obtain ⟨-, rfl⟩ := List.cons.inj heq
  simp at hback

/-- A pass for strings over the parts that its quotes cut a text into. -/
theorem pass_quotes (hquote : rule.quote? = some q) {parts : List Text}
    (hparts : ∀ part ∈ parts, q ∉ part) (hline : OnOneLine ([q].intercalate parts))
    (next : Nat) :
    rule.pass next ([q].intercalate parts) =
      (Quotes.hide q next parts, (Quotes.strings q parts).map (⟨rule, ·, []⟩)) := by
  have hskip : ∀ {part}, q ∉ part → ∀ next rest, rule.pass next (part ++ rest) =
      (part ++ (rule.pass next rest).1, (rule.pass next rest).2) := fun hpart =>
    pass_append_of_notMem (notMem_openers_of_quote? hquote hpart)
  have hlast : ∀ {part}, q ∉ part → ∀ next, rule.pass next part = (part, []) := by
    intro part hpart next
    simpa [pass_nil] using hskip hpart next []
  fun_induction Quotes.hide q next parts with
  | case1 next => exact rule.pass_nil next
  | case2 next last =>
    rw [List.intercalate_singleton, hlast (hparts last List.mem_cons_self)]
    rfl
  | case3 next front last =>
    have hback := hparts last (List.mem_cons_of_mem front List.mem_cons_self)
    have hnone := match?_quote_of_notMem hquote hback
    rw [List.intercalate_cons_cons, List.intercalate_singleton, List.append_assoc,
      hskip (hparts front List.mem_cons_self), List.singleton_append,
      pass_of_match?_eq_none hnone, hlast hback]
    rfl
  | case4 next front body behind parts ih =>
    obtain ⟨hfront, hparts⟩ := List.forall_mem_cons.mp hparts
    obtain ⟨hbody, hparts⟩ := List.forall_mem_cons.mp hparts
    rw [List.intercalate_cons_cons, List.intercalate_cons_cons] at hline
    obtain ⟨-, hline⟩ := List.forall_mem_append.mp hline
    obtain ⟨hopened, hline⟩ := List.forall_mem_append.mp hline
    obtain ⟨honeline, -⟩ := List.forall_mem_append.mp hopened
    have hnone : ∀ c ∈ body, Glyph.char? c ≠ some q := by
      rintro c hc heq
      obtain rfl := Option.some.inj heq
      exact hbody hc
    have hshort := shortest_between_quotes hquote (show Glyph.char? q = some q from rfl) honeline
      hnone (show Glyph.char? q = some q from rfl) ([q].intercalate (behind :: parts))
    rw [List.intercalate_cons_cons, List.intercalate_cons_cons, List.append_assoc,
      hskip hfront, List.append_assoc, List.singleton_append, List.singleton_append,
      pass_of_match? (match?_eq_some_iff.mpr hshort), List.nil_append, ih hparts hline]
    rfl

theorem apply_of_quote? {draft : Draft} (hquote : rule.quote? = some q)
    (hline : OnOneLine draft.text) : rule.apply draft =
      { text := Quotes.hide q draft.table.size (draft.text.splitOn q)
        table := draft.table.append
          ((Quotes.strings q (draft.text.splitOn q)).map Category.string.wrap)
        trace := (Quotes.strings q (draft.text.splitOn q)).map (⟨rule, ·, []⟩) } := by
  have hcategory : rule.category = .string := by
    cases rule with
    | singleQuoted | doubleQuoted => rfl
    | _ => cases hquote
  have hmarkup : Match.markup ∘ (⟨rule, ·, []⟩) = Category.string.wrap := by
    funext string
    rw [Function.comp_apply, Match.markup, hcategory]
  have hpass := pass_quotes hquote (fun part => notMem_of_mem_splitOn)
    (by rwa [List.intercalate_splitOn]) draft.table.size
  rw [List.intercalate_splitOn] at hpass
  rw [apply_of_pass hpass, List.map_map, hmarkup]

end Rule

-- ---------------------------------------------------------------------------
-- Drafts
-- ---------------------------------------------------------------------------

/-- The pass of the rule takes the quotes of a draft in pairs from the left. -/
structure PairsQuotes (rule : Rule) (quote : Char) (draft : Draft) : Prop where
  apply_eq : rule.apply draft =
    { text := Quotes.hide quote draft.table.size (draft.text.splitOn quote)
      table := draft.table.append
        ((Quotes.strings quote (draft.text.splitOn quote)).map Category.string.wrap)
      trace := (Quotes.strings quote (draft.text.splitOn quote)).map (⟨rule, ·, []⟩) }
  size_eq : (rule.apply draft).table.size = draft.table.size + draft.text.count quote / 2
  /-- What stands between two neighbours of which the first has `2 * k` quotes before it. -/
  stored : ∀ k front body back, draft.text = front ++ quote :: (body ++ quote :: back) →
    front.count quote = 2 * k → quote ∉ body →
    (rule.apply draft).table.get? (draft.table.size + k) =
      some (Category.string.wrap (quote :: (body ++ [quote])))
  even : draft.text.count quote % 2 = 0 → quote ∉ (rule.apply draft).text
  odd : draft.text.count quote % 2 = 1 → ∃ front hidden back,
    draft.text = front ++ quote :: back ∧ quote ∉ back ∧
      (rule.apply draft).text = hidden ++ quote :: back ∧ quote ∉ hidden

theorem pairsQuotes_of_quote? {rule : Rule} {draft : Draft} (hquote : rule.quote? = some q)
    (hline : OnOneLine draft.text) : PairsQuotes rule q draft := by
  have hparts : ∀ part ∈ draft.text.splitOn q, q ∉ part := fun part => notMem_of_mem_splitOn
  have hlength := length_splitOn q draft.text
  have hmem := Rule.quote_mem_of_quote? hquote
  have happly := Rule.apply_of_quote? hquote hline
  constructor
  case apply_eq => exact happly
  case size_eq =>
    rw [happly, Table.size_append, List.length_map, Quotes.length_strings, hlength,
      Nat.add_sub_cancel]
  case stored =>
    intro k front body back htext hcount hbody
    have hsplit : draft.text.splitOn q = front.splitOn q ++ body :: back.splitOn q := by
      rw [htext, List.splitOn_append_cons_self, List.splitOn_append_cons_self_of_not_mem hbody]
    have hfront : (front.splitOn q).length = 2 * k + 1 := by rw [length_splitOn, hcount]
    rw [happly, Table.get?_append_size_add, hsplit, List.getElem?_map,
      Quotes.getElem?_strings hfront (List.splitOn_ne_nil q back), Option.map_some]
  case even =>
    intro heven
    rw [happly]
    exact Quotes.notMem_hide hmem hparts (by omega) draft.table.size
  case odd =>
    intro hodd
    have hlast := Quotes.exists_hide_eq hmem hparts (List.splitOn_ne_nil q draft.text)
      (by omega) draft.table.size
    rw [List.intercalate_splitOn] at hlast
    rwa [happly]

/-- The strings of a source are the pairs of quotes that the passes for escapes leave visible: first
those of single quotes, then those of the double quotes that are left outside them. Of either kind
at most one quote stays, the last. -/
theorem strings_pair_quotes (source : Text) (table : Table) :
    PairsQuotes .singleQuoted '\'' (Sign.afterEscapes source table).toDraft ∧
      PairsQuotes .doubleQuoted '"'
        (Rule.singleQuoted.apply (Sign.afterEscapes source table).toDraft).toDraft := by
  have hsingle : OnOneLine (Sign.afterEscapes source table).text :=
    onOneLine_classify_escapeSource _ source table
  have hdouble : OnOneLine
      (Rule.singleQuoted.apply (Sign.afterEscapes source table).toDraft).text :=
    onOneLine_classify_escapeSource (Rule.all.take 3) source table
  exact ⟨pairsQuotes_of_quote? rfl hsingle, pairsQuotes_of_quote? rfl hdouble⟩

/-- The first double quote is inside a string already, so the second opens one. -/
example : (classify (Rule.all.take 4) (escapeSource "'a\"'\"b\"'c\"".toList .empty)).text =
    "$0;$1;'c\"<br>".toList := by
  decide +kernel

end LuaMarkup
