import LuaMarkup.Proofs.Opaque

/-!
# Line by line

A pass over two texts on end is a pass over each of them, if the first closes with a line end
and the pass leaves none of its quotes there (`Rule.box_lineEnd_append`): no other match reaches
over a line end. So the lines of a source are highlighted each on its own as long as no string
stays open in the lines before (`highlight_lines`). Where one does, the next quote of its kind
closes it, in whatever line.
-/

namespace LuaMarkup

theorem onOneLine_iff {items : List Item} : OnOneLine items ↔ Item.char '\n' ∉ items := by
  constructor
  · exact fun h hmem => h _ hmem rfl
  · intro h item hmem hfeed
    obtain rfl := Item.char?_eq_some_iff.mp hfeed
    exact h hmem

namespace Rule

-- ---------------------------------------------------------------------------
-- Matches in front of a line end
-- ---------------------------------------------------------------------------

section
variable [Glyph α]

/-- What follows a match does not change it. -/
theorem match?_append {rule : Rule} {items : List α} {hit : Hit α}
    (h : rule.match? items = some hit) (back : List α) :
    rule.match? (items ++ back) = some { hit with rest := hit.rest ++ back } := by
  have hshort := match?_eq_some_iff.mp h
  refine match?_eq_some_iff.mpr ⟨hshort.accepts, by simp [hshort.items_eq], ?_⟩
  intro m c r haccepts heq
  rcases List.append_eq_append_iff.mp heq with ⟨t, hfront, -⟩ | ⟨t, hitems, -⟩
  · have hlen := congrArg List.length hshort.items_eq
    have hfront := congrArg List.length hfront
    have hcontext := haccepts.length_context hshort.accepts
    simp only [List.length_append] at hlen hfront ⊢
    omega
  · exact hshort.least m c t haccepts hitems

end

/-- Where something is accepted that reaches over a line end, what stands before that line end
is accepted too, except between quotes. -/
theorem Accepts.of_lineEnd_append {rule : Rule} {m c items : List Item} (h : rule.Accepts m c)
    (hquote : rule.quote? = none) (heq : m ++ c = items ++ (Item.ofText lineEnd ++ taken))
    (hne : taken ≠ []) : rule.Accepts items (Item.ofText lineEnd) := by
  have htag : Item.char '<' ∈ m ++ c := by
    rw [heq]
    exact List.mem_append_right _ List.mem_cons_self
  have hnone : rule ∉ nesting → Item.char '<' ∉ m := h.tag_notMem
  cases h with
  | singleQuoted | doubleQuoted => cases hquote
  | doubleBackslash | escapedQuote | operator =>
    exact absurd (by simpa using htag) (hnone (by decide))
  | keyword _ _ hc =>
    -- the context is one tag, and the line end has another one before it
    have hm := congrArg List.dropLast heq
    rw [Item.spells_iff.mp hc, ← List.append_assoc, List.dropLast_append_of_ne_nil hne,
      Item.ofText_cons, Item.ofText_nil, List.dropLast_concat] at hm
    refine absurd ?_ (hnone (by decide))
    rw [hm, List.append_assoc]
    exact List.mem_append_right _ List.mem_cons_self
  | @lineComment dashes body _ hdashes hbody hc =>
    have hfeed : Item.char '\n' ∉ body ++ c := fun hmem => (List.mem_append.mp hmem).elim
      (onOneLine_iff.mp hbody) (char_notMem_of_spells hc (by decide))
    rw [List.append_assoc] at heq
    rcases List.append_eq_append_iff.mp heq with ⟨front, rfl, hrest⟩ | ⟨behind, hdashes', hrest⟩
    · rw [hrest] at hfeed
      exact .lineComment hdashes (onOneLine_iff.mpr fun hmem => hfeed (List.mem_append_left _ hmem))
        (Item.spells_iff.mpr rfl)
    · cases behind with
      | nil =>
        rw [List.append_nil] at hdashes'
        have hnil : OnOneLine ([] : List Item) := nofun
        rw [← hdashes', ← List.append_nil dashes]
        exact .lineComment hdashes hnil (Item.spells_iff.mpr rfl)
      | cons item behind =>
        obtain ⟨rfl, -⟩ := List.cons.inj hrest
        refine absurd ?_ (char_notMem_of_spells hdashes (by decide : '<' ∉ ['-', '-']))
        rw [hdashes']
        exact List.mem_append_right _ List.mem_cons_self

/-- Where there is no match before a line end, none begins that reaches over it, unless one
of the rule's quotes stands there. -/
theorem match?_lineEnd_append_eq_none {rule : Rule} {item : Item} {items : List Item}
    (h : rule.match? (item :: (items ++ Item.ofText lineEnd)) = none)
    (hquote : ∀ q, rule.quote? = some q → item ≠ .char q) (back : List Item) :
    rule.match? (item :: (items ++ Item.ofText lineEnd ++ back)) = none := by
  rw [match?_eq_none_iff] at h ⊢
  intro m c r haccepts heq
  rw [← List.cons_append, ← List.cons_append] at heq
  rcases List.append_eq_append_iff.mp heq with ⟨taken, hfront, -⟩ | ⟨r', hitems, -⟩
  · cases hq : rule.quote? with
    | some q =>
      obtain ⟨⟨first, body, last, rfl, hfirst, -, -⟩, rfl⟩ := (accepts_of_quote? hq).mp haccepts
      obtain rfl := Item.char?_eq_some_iff.mp hfirst
      exact hquote q hq (List.cons.inj heq).1
    | none =>
      cases taken with
      | nil =>
        rw [List.append_nil] at hfront
        exact h m c [] haccepts (by rw [hfront, List.append_nil, List.cons_append])
      | cons taken more =>
        rw [List.append_assoc] at hfront
        have hitems := haccepts.of_lineEnd_append hq hfront (List.cons_ne_nil taken more)
        exact h (item :: items) (Item.ofText lineEnd) [] hitems (by simp)
  · exact h m c r' haccepts hitems

-- ---------------------------------------------------------------------------
-- A pass
-- ---------------------------------------------------------------------------

/-- A pass that leaves none of its quotes before a line end goes on behind it as if it began
there. -/
theorem box_lineEnd_append {rule : Rule} {items : List Item}
    (h : ∀ q, rule.quote? = some q → Item.char q ∉ rule.box (items ++ Item.ofText lineEnd))
    (back : List Item) : rule.box (items ++ Item.ofText lineEnd ++ back) =
      rule.box (items ++ Item.ofText lineEnd) ++ rule.box back := by
  induction items using rule.lineEnd_induction with
  | nil => rw [List.nil_append, box_lineEnd, box_ofText_append (by decide)]
  | hit hmatch htail ih =>
    rw [box_of_match?_append hmatch, htail] at h ⊢
    rw [box_of_match?_append (match?_append hmatch back), ← List.append_assoc, htail,
      ih fun q hq hmem => h q hq (List.mem_cons_of_mem _ hmem), List.cons_append]
  | @skip item items hnone ih =>
    rw [List.cons_append, box_of_match?_eq_none hnone] at h
    -- an open quote is the one place from which a match reaches over the line end
    have hnone' := match?_lineEnd_append_eq_none hnone
      (fun q hq hitem => h q hq (hitem ▸ List.mem_cons_self)) back
    rw [List.cons_append, List.cons_append, box_of_match?_eq_none hnone',
      box_of_match?_eq_none hnone, ih fun q hq hmem => h q hq (List.mem_cons_of_mem item hmem),
      List.cons_append]

end Rule

/-- No pass of the rules in order leaves one of its quotes. -/
def Closed : List Rule → List Item → Prop
  | [], _ => True
  | rule :: rules, items =>
    (∀ q, rule.quote? = some q → Item.char q ∉ rule.box items) ∧ Closed rules (rule.box items)

theorem boxAll_lineEnd_append {rules : List Rule} {items : List Item}
    (h : Closed rules (items ++ Item.ofText lineEnd)) (back : List Item) :
    boxAll rules (items ++ Item.ofText lineEnd ++ back) =
      boxAll rules (items ++ Item.ofText lineEnd) ++ boxAll rules back := by
  induction rules generalizing items back with
  | nil => rfl
  | cons rule rules ih =>
    obtain ⟨hfirst, hrest⟩ := h
    obtain ⟨out, hout⟩ := rule.box_append_lineEnd items
    rw [hout] at hrest
    simp only [boxAll_cons]
    rw [rule.box_lineEnd_append hfirst back, hout]
    exact ih hrest (rule.box back)

-- ---------------------------------------------------------------------------
-- Sources
-- ---------------------------------------------------------------------------

/-- No string stays open in the source: the pass that looks for a kind of quotes leaves none. -/
def QuotesPaired (source : Text) : Prop :=
  '\'' ∉ (classify (Rule.all.take 3) (escapeSource source Table.empty)).text ∧
    '"' ∉ (classify (Rule.all.take 4) (escapeSource source Table.empty)).text

instance (source : Text) : Decidable (QuotesPaired source) :=
  inferInstanceAs (Decidable (_ ∧ _))

/-- A character that no token has stands in the text where it stands in the items. -/
theorem Encodes.char_mem_iff {table : Table} (h : Encodes table limit items text)
    (hc : ∀ index, c ∉ Token.write index) : c ∈ text ↔ Item.char c ∈ items := by
  induction h with
  | nil => simp
  | char _ _ ih => simp [ih]
  | @sentinel index limit items text _ _ _ ih =>
    have hne : c ≠ LuaMarkup.sentinel := by
      rintro rfl
      exact hc 0 List.mem_cons_self
    simp [ih, hc index, hne]
  | @box index limit content stored items text category _ _ _ _ _ ih => simp [ih, hc index]

theorem quotesPaired_iff {source : Text} :
    QuotesPaired source ↔ Closed Rule.all (Item.ofText (Escape.plain source ++ lineEnd)) := by
  have hescaped := encodes_escapeSource source Table.empty
  have hsingle := (hescaped.classify (Rule.all.take 3)).char_mem_iff
    (quote_notMem_write '\'' (by decide))
  have hdouble := (hescaped.classify (Rule.all.take 4)).char_mem_iff
    (quote_notMem_write '"' (by decide))
  rw [QuotesPaired, hsingle, hdouble]
  simp [Closed, Rule.all, Rule.quote?, boxAll]

theorem joinLineEnds_append_lineFeed {left : Text} (h : left.getLast? ≠ some '\r')
    (right : Text) : Text.joinLineEnds (left ++ '\n' :: right) =
      Text.joinLineEnds left ++ '\n' :: Text.joinLineEnds right := by
  rw [Escape.joinLineEnds_append_of_seam fun hlast => absurd hlast h,
    Escape.joinLineEnds_cons (by decide)]

theorem plain_append_lineFeed {left : Text} (h : left.getLast? ≠ some '\r') (right : Text) :
    Escape.plain (left ++ '\n' :: right) =
      Escape.plain left ++ (lineEnd ++ Escape.plain right) := by
  rw [Escape.plain, joinLineEnds_append_lineFeed h, List.flatMap_append, List.flatMap_cons]
  rfl

theorem boxedSource_append_lineFeed {left : Text} (h : left.getLast? ≠ some '\r')
    (hclosed : Closed rules (Item.ofText (Escape.plain left ++ lineEnd))) (right : Text) :
    boxedSource rules (left ++ '\n' :: right) =
      boxedSource rules left ++ boxedSource rules right := by
  simp only [Item.ofText_append] at hclosed
  have hboxed := boxAll_lineEnd_append hclosed (Item.ofText (Escape.plain right ++ lineEnd))
  simp only [boxedSource, plain_append_lineFeed h, Item.ofText_append, List.append_assoc]
    at hboxed ⊢
  exact hboxed

/-- The two sources are highlighted as if each stood alone. -/
def Apart (left right : Text) : Prop :=
  ∃ first second, highlight left = .ok first ∧ highlight right = .ok second ∧
    highlight (left ++ '\n' :: right) = .ok (first ++ lineEnd ++ second)

theorem apart_of_boxedSource {left right : Text}
    (hlength : left.length + right.length < 10 ^ maxDigits)
    (hboxed : boxedSource Rule.all (left ++ '\n' :: right) =
      boxedSource Rule.all left ++ boxedSource Rule.all right) : Apart left right := by
  obtain ⟨first, hfirst⟩ := exists_boxedSource_eq Rule.all left
  obtain ⟨second, hsecond⟩ := exists_boxedSource_eq Rule.all right
  have hjoined : boxedSource Rule.all (left ++ '\n' :: right) =
      (first ++ Item.ofText lineEnd ++ second) ++ Item.ofText lineEnd := by
    rw [hboxed, hfirst, hsecond, List.append_assoc _ second]
  have hprint := fun {source items} (hsource : source.length ≤ 10 ^ maxDigits)
      (heq : boxedSource Rule.all source = items ++ Item.ofText lineEnd) =>
    highlight_of_resolve (resolve_classifySource (size_classifySource_le hsource) heq)
  refine ⟨_, _, hprint (by omega) hfirst, hprint (by omega) hsecond, ?_⟩
  rw [hprint (by simp only [List.length_append, List.length_cons]; omega) hjoined]
  simp

/-- A source in which no string stays open is highlighted apart from what follows it on new
lines. -/
theorem highlight_lines (left right : Text) (hlength : left.length + right.length < 10 ^ maxDigits)
    (hreturn : left.getLast? ≠ some '\r') (hquotes : QuotesPaired left) :
    ∃ first second, highlight left = .ok first ∧ highlight right = .ok second ∧
      highlight (left ++ '\n' :: right) = .ok (first ++ lineEnd ++ second) :=
  apart_of_boxedSource hlength
    (boxedSource_append_lineFeed hreturn (quotesPaired_iff.mp hquotes) right)

/-- A line with a string that ends in backslashes and a comment, and a string that stays open
on the next. -/
theorem highlight_lines_comment :
    "x = 'a\\\\' -- \"b\"".toList.length + "end 'c".toList.length < 10 ^ maxDigits ∧
      "x = 'a\\\\' -- \"b\"".toList.getLast? ≠ some '\r' ∧
      QuotesPaired "x = 'a\\\\' -- \"b\"".toList ∧
      ∃ first second, highlight "x = 'a\\\\' -- \"b\"".toList = .ok first ∧
        highlight "end 'c".toList = .ok second ∧
        highlight "x = 'a\\\\' -- \"b\"\nend 'c".toList = .ok (first ++ lineEnd ++ second) := by
  have hlength : "x = 'a\\\\' -- \"b\"".toList.length + "end 'c".toList.length < 10 ^ maxDigits :=
    Nat.lt_of_lt_of_le (by decide : _ < maxDigits) (le_pow_maxDigits le_rfl)
  have hreturn : "x = 'a\\\\' -- \"b\"".toList.getLast? ≠ some '\r' := by decide
  have hquotes : QuotesPaired "x = 'a\\\\' -- \"b\"".toList := by decide +kernel
  exact ⟨hlength, hreturn, hquotes,
    highlight_lines "x = 'a\\\\' -- \"b\"".toList "end 'c".toList hlength hreturn hquotes⟩

end LuaMarkup
