import LuaMarkup.Proofs.Content
import LuaMarkup.Proofs.Lines

/-!
# Comments and the lines behind them

Strings are looked for before comments, so a quote without a partner in a comment finds one on
a later line, and the string between them takes the line end along. Then the text ends in a
box (`EndsInBox`), which it does not where the line behind the comment is highlighted on its
own. So a comment hides its contents from what follows it exactly if its quotes come in pairs
(`highlight_comment`).
-/

namespace LuaMarkup

-- ---------------------------------------------------------------------------
-- A quote that stays open
-- ---------------------------------------------------------------------------

def EndsInBox (items : List Item) : Prop :=
  ∃ front category content, items = front ++ [.box category content]

theorem EndsInBox.append_left (h : EndsInBox items) (front : List Item) :
    EndsInBox (front ++ items) := by
  obtain ⟨front', category, content, rfl⟩ := h
  exact ⟨front ++ front', category, content, (List.append_assoc ..).symm⟩

theorem EndsInBox.of_append (h : EndsInBox (front ++ items)) (hne : items ≠ []) :
    EndsInBox items := by
  obtain ⟨front', category, content, heq⟩ := h
  obtain ⟨behind, last, rfl⟩ := (List.eq_nil_or_concat items).resolve_left hne
  rw [List.concat_eq_append, ← List.append_assoc] at heq
  obtain ⟨-, hlast⟩ := List.append_inj' heq rfl
  obtain rfl := (List.cons.inj hlast).1
  exact ⟨behind, category, content, List.concat_eq_append ..⟩

theorem EndsInBox.getLast?_renderAll (h : EndsInBox items) :
    (Item.renderAll items).getLast? = some '>' := by
  obtain ⟨front, category, content, rfl⟩ := h
  have htag : Category.closeTag.getLast? = some '>' := by decide
  simp [Item.renderAll, Item.render, Category.wrap, List.getLast?_append, htag]

namespace Rule

/-- The last box stays or goes into a box of its own. -/
theorem exists_endsInBox_box (rule : Rule) (h : EndsInBox items) :
    ∃ out, EndsInBox out ∧
      rule.box (items ++ Item.ofText lineEnd) = out ++ Item.ofText lineEnd := by
  induction items using rule.lineEnd_induction with
  | nil =>
    obtain ⟨front, category, content, heq⟩ := h
    simp at heq
  | @hit hit behind hmatch htail ih =>
    rw [box_of_match?_append hmatch, htail]
    by_cases hne : behind = []
    · subst hne
      exact ⟨[.box rule.category hit.matched], ⟨[], _, _, rfl⟩, by
        rw [List.nil_append, box_lineEnd]
        rfl⟩
    · obtain ⟨out, hends, hout⟩ := ih (h.of_append hne)
      exact ⟨.box rule.category hit.matched :: out, hends.append_left [_], by
        rw [hout, List.cons_append]⟩
  | @skip item items hnone ih =>
    rw [List.cons_append, box_of_match?_eq_none hnone]
    by_cases hne : items = []
    · subst hne
      exact ⟨[item], h, by
        rw [List.nil_append, box_lineEnd]
        rfl⟩
    · have hitems : EndsInBox ([item] ++ items) := h
      obtain ⟨out, hends, hout⟩ := ih (hitems.of_append hne)
      exact ⟨item :: out, hends.append_left [item], by rw [hout, List.cons_append]⟩

/-- From a quote that stays open to the next of its kind there is a match. -/
theorem shortest_of_quote? {rule : Rule} {items : List Item} (hquote : rule.quote? = some q)
    (hfeed : Item.char '\n' ∉ items) (hnone : rule.match? (.char q :: items) = none)
    (back : List Item) :
    rule.Shortest (.char q :: (items ++ .char q :: back))
      ⟨.char q :: (items ++ [.char q]), [], back⟩ := by
  refine shortest_between_quotes hquote rfl (onOneLine_iff.mpr hfeed) ?_ rfl back
  intro item hmem hitem
  obtain rfl := Item.char?_eq_some_iff.mp hitem
  obtain ⟨body, rest, rfl⟩ := List.append_of_mem hmem
  have hbody : OnOneLine body := onOneLine_iff.mpr fun h => hfeed (List.mem_append_left _ h)
  have haccepts : rule.Accepts (Item.char q :: (body ++ [.char q])) [] :=
    (accepts_of_quote? hquote).mpr ⟨⟨_, body, _, rfl, rfl, hbody, rfl⟩, rfl⟩
  exact match?_eq_none_iff.mp hnone _ _ rest haccepts (by simp)

/-- A quote that a pass leaves open is closed by the next of its kind, on a later line too. -/
theorem exists_endsInBox_of_quote_mem {rule : Rule} {items : List Item}
    (hquote : rule.quote? = some q) (hfeed : Item.char '\n' ∉ items ++ Item.ofText lineEnd)
    (hmem : Item.char q ∈ rule.box (items ++ Item.ofText lineEnd)) :
    ∃ out, EndsInBox out ∧
      rule.box (items ++ Item.ofText lineEnd ++ .char q :: Item.ofText lineEnd) =
        out ++ Item.ofText lineEnd := by
  induction items using rule.lineEnd_induction with
  | nil =>
    have hquotes : ∀ q ∈ ['"', '\''], Item.char q ∉ Item.ofText lineEnd := fun q hq =>
      char_notMem_of_spells (Item.spells_iff.mpr rfl) (by revert q; decide)
    rw [List.nil_append, box_lineEnd] at hmem
    exact absurd hmem (hquotes q (quote_mem_of_quote? hquote))
  | @hit hit behind hmatch htail ih =>
    rw [box_of_match?_append hmatch, htail] at hmem
    rw [List.append_assoc] at hfeed
    obtain ⟨out, hends, hout⟩ := ih (fun h => hfeed (List.mem_append_right _ h))
      ((List.mem_cons.mp hmem).resolve_left nofun)
    refine ⟨.box rule.category hit.matched :: out, hends.append_left [_], ?_⟩
    rw [box_of_match?_append (match?_append hmatch _), ← List.append_assoc, htail, hout,
      List.cons_append]
  | @skip item items hnone ih =>
    have hline : Item.char '\n' ∉ items ++ Item.ofText lineEnd := fun h =>
      hfeed (List.mem_cons_of_mem _ h)
    by_cases hitem : item = .char q
    · subst hitem
      -- the first quote that stays open takes everything up to the new one
      have hshort := shortest_of_quote? hquote hline hnone (Item.ofText lineEnd)
      rw [List.cons_append, List.cons_append, box_of_match? (match?_eq_some_iff.mpr hshort),
        List.nil_append, box_lineEnd]
      exact ⟨[_], ⟨[], _, _, rfl⟩, rfl⟩
    · rw [List.cons_append, box_of_match?_eq_none hnone] at hmem
      have hnone' := match?_lineEnd_append_eq_none hnone
        (fun q' hq' => Option.some.inj (hquote.symm.trans hq') ▸ hitem)
        (.char q :: Item.ofText lineEnd)
      obtain ⟨out, hends, hout⟩ := ih hline ((List.mem_cons.mp hmem).resolve_left (Ne.symm hitem))
      refine ⟨item :: out, hends.append_left [item], ?_⟩
      rw [List.cons_append, List.cons_append, box_of_match?_eq_none hnone', hout, List.cons_append]

end Rule

theorem exists_endsInBox_boxAll (rules : List Rule) (h : EndsInBox items) :
    ∃ out, EndsInBox out ∧
      boxAll rules (items ++ Item.ofText lineEnd) = out ++ Item.ofText lineEnd := by
  induction rules generalizing items with
  | nil => exact ⟨items, h, rfl⟩
  | cons rule rules ih =>
    obtain ⟨middle, hmiddle, hbox⟩ := rule.exists_endsInBox_box h
    rw [boxAll_cons, hbox]
    exact ih hmiddle

theorem box_quote_lineEnd (rule : Rule) (hq : q ∈ ['"', '\'']) :
    rule.box (.char q :: Item.ofText lineEnd) = .char q :: Item.ofText lineEnd := by
  have hnone : rule.match? (.char q :: Item.ofText lineEnd) = none := by
    simp only [List.mem_cons, List.not_mem_nil, or_false] at hq
    rcases hq with rfl | rfl <;> cases rule <;> rfl
  rw [Rule.box_of_match?_eq_none hnone, Rule.box_lineEnd]

theorem boxAll_quote_lineEnd (rules : List Rule) (hq : q ∈ ['"', '\'']) :
    boxAll rules (.char q :: Item.ofText lineEnd) = .char q :: Item.ofText lineEnd := by
  induction rules with
  | nil => rfl
  | cons rule rules ih => rw [boxAll_cons, box_quote_lineEnd rule hq, ih]

/-- If the passes leave a quote open, one of the two kinds of quotes shows it on a new line. -/
theorem exists_endsInBox_of_not_closed {rules : List Rule} {items : List Item}
    (hfeed : '\n' ∉ Item.lettersAll (items ++ Item.ofText lineEnd))
    (h : ¬Closed rules (items ++ Item.ofText lineEnd)) :
    ∃ q ∈ ['"', '\''], ∃ out, EndsInBox out ∧
      boxAll rules (items ++ Item.ofText lineEnd ++ .char q :: Item.ofText lineEnd) =
        out ++ Item.ofText lineEnd := by
  induction rules generalizing items with
  | nil => exact absurd trivial h
  | cons rule rules ih =>
    by_cases hfirst : ∀ q, rule.quote? = some q →
        Item.char q ∉ rule.box (items ++ Item.ofText lineEnd)
    -- a pass that leaves no quote open does not meet the new line
    · have hrest : ¬Closed rules (rule.box (items ++ Item.ofText lineEnd)) := fun hrest =>
        h ⟨hfirst, hrest⟩
      have hletters := lettersAll_box rule (items ++ Item.ofText lineEnd)
      obtain ⟨middle, hmiddle⟩ := rule.box_append_lineEnd items
      rw [hmiddle] at hrest hletters
      obtain ⟨q, hq, out, hends, hout⟩ := ih (by rwa [hletters]) hrest
      refine ⟨q, hq, out, hends, ?_⟩
      rw [boxAll_cons, rule.box_lineEnd_append hfirst,
        box_quote_lineEnd rule hq, hmiddle, hout]
    · push Not at hfirst
      obtain ⟨q, hquote, hmem⟩ := hfirst
      obtain ⟨middle, hmiddle, hbox⟩ := Rule.exists_endsInBox_of_quote_mem hquote
        (fun hmem => hfeed (Item.mem_lettersAll hmem)) hmem
      refine ⟨q, Rule.quote_mem_of_quote? hquote, ?_⟩
      rw [boxAll_cons, hbox]
      exact exists_endsInBox_boxAll rules hmiddle

-- ---------------------------------------------------------------------------
-- Sources
-- ---------------------------------------------------------------------------

theorem highlight_quote (hq : q ∈ ['"', '\'']) : highlight [q] = .ok [q] := by
  have hplain : ∀ q ∈ ['"', '\''], Escape.plain [q] = [q] := by decide
  have hboxed : boxedSource Rule.all [q] = [.char q] ++ Item.ofText lineEnd := by
    rw [boxedSource, hplain q hq]
    exact boxAll_quote_lineEnd Rule.all hq
  have hlen : [q].length ≤ 10 ^ maxDigits := le_pow_maxDigits (show 1 ≤ maxDigits by decide)
  exact highlight_of_resolve (resolve_classifySource (size_classifySource_le hlen) hboxed)

/-- Markup that ends in a box does not end in a quote. -/
theorem not_apart_of_endsInBox (hq : q ∈ ['"', '\'']) (hlength : left.length + 1 < 10 ^ maxDigits)
    (h : EndsInBox out)
    (hboxed : boxedSource Rule.all (left ++ ['\n', q]) = out ++ Item.ofText lineEnd) :
    ¬Apart left [q] := by
  rintro ⟨first, second, -, hsecond, hjoined⟩
  obtain rfl : [q] = second := Except.ok.inj ((highlight_quote hq).symm.trans hsecond)
  have hlen : (left ++ ['\n', q]).length ≤ 10 ^ maxDigits := by
    simp only [List.length_append, List.length_cons, List.length_nil]
    omega
  have hmarkup := highlight_of_resolve (resolve_classifySource (size_classifySource_le hlen) hboxed)
  have hlast := congrArg List.getLast? (Except.ok.inj (hjoined.symm.trans hmarkup))
  rw [List.getLast?_concat, h.getLast?_renderAll] at hlast
  have hne : ∀ q ∈ ['"', '\''], q ≠ '>' := by decide
  exact hne q hq (Option.some.inj hlast)

theorem quotesPaired_of_apart {left : Text} (hlength : left.length + 1 < 10 ^ maxDigits)
    (hreturn : left.getLast? ≠ some '\r') (h : ∀ q ∈ ['"', '\''], Apart left [q]) :
    QuotesPaired left := by
  by_contra hquotes
  rw [quotesPaired_iff, Item.ofText_append] at hquotes
  have hfeed : '\n' ∉ Item.lettersAll (Item.ofText (Escape.plain left) ++
      Item.ofText lineEnd) := by
    rw [← Item.ofText_append, Item.lettersAll_ofText]
    exact fun hmem => (List.mem_append.mp hmem).elim (Escape.lineFeed_notMem_plain left) (by decide)
  obtain ⟨q, hq, out, hends, hout⟩ := exists_endsInBox_of_not_closed hfeed hquotes
  have hplain : ∀ q ∈ ['"', '\''], Escape.plain [q] = [q] := by decide
  refine not_apart_of_endsInBox hq hlength hends ?_ (h q hq)
  rw [boxedSource, plain_append_lineFeed hreturn, hplain q hq]
  simpa using hout

-- ---------------------------------------------------------------------------
-- A comment on its line
-- ---------------------------------------------------------------------------

theorem boxAll_append_of_notMem {rules : List Rule} {front : List Item}
    (h : ∀ rule ∈ rules, ∀ item ∈ front, ∀ o, Glyph.char? item = some o → o ∉ rule.openers)
    (items : List Item) : boxAll rules (front ++ items) = front ++ boxAll rules items := by
  induction rules generalizing items with
  | nil => rfl
  | cons rule rules ih =>
    rw [boxAll_cons, Rule.box_append_of_notMem (h rule List.mem_cons_self),
      ih fun r hr => h r (List.mem_cons_of_mem rule hr), boxAll_cons]

theorem boxAll_lineEnd (rules : List Rule) :
    boxAll rules (Item.ofText lineEnd) = Item.ofText lineEnd := by
  induction rules with
  | nil => rfl
  | cons rule rules ih => rw [boxAll_cons, Rule.box_lineEnd, ih]

theorem Content.lineEnd_not_infix {span : Category → List Item → Prop} {items : List Item}
    (h : Content (· ≠ lineEnd) span items) : ¬Item.ofText lineEnd <:+: items := by
  rintro ⟨front, back, rfl⟩
  rw [List.append_assoc] at h
  obtain ⟨-, h⟩ := h.cut_before (by decide : '<' ∉ innerCharacters)
  generalize heq : Item.char '<' :: _ = behind at h
  cases h with
  | nil => cases heq
  | plain hplain =>
    obtain rfl := Item.char.inj (List.cons.inj heq).1
    exact absurd hplain (by decide)
  | entity hmem hdirect => exact hdirect (eq_lineEnd_of_append_eq hmem heq.symm)
  | box => cases heq

/-- In one line there is no line end but that which escaping puts behind it. -/
theorem lineEnd_not_infix_plain (hfeed : '\n' ∉ line) (hreturn : '\r' ∉ line) :
    ¬lineEnd <:+: Escape.plain line := by
  have hline : Text.joinLineEnds line = line := by
    simpa [Text.joinLineEnds] using Escape.joinLineEnds_append hreturn []
  have hcharacter : ∀ c ≠ '\n', ¬lineEnd <:+: Escape.character c := by
    intro c hc
    by_cases hplain : Escape.IsPlain c
    · rw [Escape.character_of_isPlain hplain]
      exact fun h => absurd h.length_le (show ¬4 ≤ 1 by decide)
    · have hspecial : ∀ c ∈ ['&', '<', '\n', '\t', ' '], c ≠ '\n' →
          ¬lineEnd <:+: Escape.character c := by decide
      exact hspecial c (Decidable.not_not.mp hplain) hc
  have hcontent : Content (· ≠ lineEnd) (fun _ _ => True)
      (Item.ofText (Escape.plain line) ++ []) := by
    refine .of_plain ?_ .nil
    rintro c hmem _ hpiece rfl
    rw [hline] at hmem
    exact hcharacter c (fun hc => hfeed (hc ▸ hmem)) hpiece
  rw [List.append_nil] at hcontent
  exact fun h => hcontent.lineEnd_not_infix (h.map Item.char)

/-- From two dashes on there is a match up to the line end. -/
theorem Rule.match?_lineComment {items : List Item} (hfeed : Item.char '\n' ∉ items)
    (hend : ¬Item.ofText lineEnd <:+: items) :
    Rule.lineComment.match? (Item.ofText ['-', '-'] ++ (items ++ Item.ofText lineEnd)) =
      some ⟨Item.ofText ['-', '-'] ++ items, Item.ofText lineEnd, []⟩ := by
  have hnone : ∀ front mark back, Spells mark lineEnd → items ≠ front ++ (mark ++ back) := by
    rintro front mark back hmark rfl
    obtain rfl := Item.spells_iff.mp hmark
    exact hend ⟨front, back, List.append_assoc ..⟩
  have hshort := shortest_to_lineEnd (Item.spells_iff.mpr rfl) (onOneLine_iff.mpr hfeed)
    (Item.spells_iff.mpr rfl) hnone []
  rw [List.append_nil] at hshort
  exact match?_eq_some_iff.mpr hshort

/-- A line that begins with a comment is one box. -/
theorem exists_boxedSource_comment {comment : Text} (hfeed : '\n' ∉ comment)
    (hreturn : '\r' ∉ comment) :
    ∃ content, Item.lettersAll content = Escape.plain ('-' :: '-' :: comment) ∧
      boxedSource Rule.all ('-' :: '-' :: comment) =
        [.box .comment content] ++ Item.ofText lineEnd := by
  have hplain : Escape.plain ('-' :: '-' :: comment) = ['-', '-'] ++ Escape.plain comment := by
    rw [show '-' :: '-' :: comment = ['-', '-'] ++ comment from rfl, Escape.plain,
      Escape.joinLineEnds_append (by decide), List.flatMap_append]
    rfl
  obtain ⟨out, hout⟩ := boxAll_append_lineEnd (Rule.all.take 4) (Item.ofText (Escape.plain comment))
  have hletters := lettersAll_boxAll (Rule.all.take 4)
    (Item.ofText (Escape.plain comment) ++ Item.ofText lineEnd)
  rw [hout, Item.lettersAll_append, Item.lettersAll_append, Item.lettersAll_ofText,
    Item.lettersAll_ofText] at hletters
  have hletters : Item.lettersAll out = Escape.plain comment := List.append_cancel_right hletters
  have hmatch : Rule.lineComment.match? (Item.ofText ['-', '-'] ++ (out ++ Item.ofText lineEnd)) =
      some ⟨Item.ofText ['-', '-'] ++ out, Item.ofText lineEnd, []⟩ := by
    apply Rule.match?_lineComment
    · exact fun hmem => Escape.lineFeed_notMem_plain comment (hletters ▸ Item.mem_lettersAll hmem)
    · rintro ⟨front, back, rfl⟩
      refine lineEnd_not_infix_plain hfeed hreturn ?_
      rw [← hletters]
      exact ⟨Item.lettersAll front, Item.lettersAll back, by simp⟩
  have hdashes : ∀ rule ∈ Rule.all.take 4, ∀ item ∈ Item.ofText ['-', '-'],
      ∀ o, Glyph.char? item = some o → o ∉ rule.openers := by
    have hopeners : ∀ rule ∈ Rule.all.take 4, '-' ∉ rule.openers := by decide
    intro rule hrule item hitem o ho
    obtain rfl : item = .char '-' := by simpa using hitem
    obtain rfl := Option.some.inj ho
    exact hopeners rule hrule
  refine ⟨Item.ofText ['-', '-'] ++ out, ?_, ?_⟩
  · rw [Item.lettersAll_append, Item.lettersAll_ofText, hletters, hplain]
  · calc boxedSource Rule.all ('-' :: '-' :: comment)
      _ = boxAll [.operator, .keyword] (Rule.lineComment.box (boxAll (Rule.all.take 4)
            (Item.ofText (Escape.plain ('-' :: '-' :: comment) ++ lineEnd)))) := rfl
      _ = boxAll [.operator, .keyword] (Rule.lineComment.box
            (Item.ofText ['-', '-'] ++ (out ++ Item.ofText lineEnd))) := by
        rw [hplain, List.append_assoc, Item.ofText_append, boxAll_append_of_notMem hdashes,
          Item.ofText_append, hout]
      _ = boxAll [.operator, .keyword]
            ([.box .comment (Item.ofText ['-', '-'] ++ out)] ++ Item.ofText lineEnd) := by
        rw [Rule.box_of_match? hmatch, Rule.box_nil, List.append_nil]
        rfl
      _ = [.box .comment (Item.ofText ['-', '-'] ++ out)] ++ Item.ofText lineEnd := by
        rw [boxAll_append_of_notMem (by simp), boxAll_lineEnd]

/-- A comment alone is one span to the end of its line. It stays apart from whatever stands on
the lines behind it exactly if no string stays open in it. -/
theorem highlight_comment (comment : Text) (hfeed : '\n' ∉ comment) (hreturn : '\r' ∉ comment)
    (hlength : comment.length + 3 < 10 ^ maxDigits) :
    (∃ content, Item.lettersAll content = Escape.plain ('-' :: '-' :: comment) ∧
      highlight ('-' :: '-' :: comment) =
        .ok (Category.comment.wrap (Item.renderAll content))) ∧
    ((∀ right, comment.length + 2 + right.length < 10 ^ maxDigits →
      Apart ('-' :: '-' :: comment) right) ↔ QuotesPaired ('-' :: '-' :: comment)) := by
  have hlast : ('-' :: '-' :: comment).getLast? ≠ some '\r' := fun h =>
    hreturn (by simpa using List.mem_of_getLast? h)
  refine ⟨?_, fun h => ?_, fun hquotes right hright => ?_⟩
  · obtain ⟨content, hletters, hboxed⟩ := exists_boxedSource_comment hfeed hreturn
    have hlen : ('-' :: '-' :: comment).length ≤ 10 ^ maxDigits := by
      simp only [List.length_cons]
      omega
    refine ⟨content, hletters, ?_⟩
    rw [highlight_of_resolve (resolve_classifySource (size_classifySource_le hlen) hboxed)]
    simp [Item.renderAll, Item.render]
  · refine quotesPaired_of_apart ?_ hlast fun q _ => h [q] ?_
    · simpa using hlength
    · simpa using hlength
  · refine apart_of_boxedSource (by simpa using hright) ?_
    exact boxedSource_append_lineFeed hlast (quotesPaired_iff.mp hquotes) right

/-- A comment with a string of each kind in it. -/
theorem highlight_comment_strings :
    '\n' ∉ " 'if' \"end\"".toList ∧ '\r' ∉ " 'if' \"end\"".toList ∧
      " 'if' \"end\"".toList.length + 3 < 10 ^ maxDigits ∧
      (∃ content, Item.lettersAll content = Escape.plain "-- 'if' \"end\"".toList ∧
        highlight "-- 'if' \"end\"".toList =
          .ok (Category.comment.wrap (Item.renderAll content))) ∧
      ((∀ right, " 'if' \"end\"".toList.length + 2 + right.length < 10 ^ maxDigits →
        Apart "-- 'if' \"end\"".toList right) ↔ QuotesPaired "-- 'if' \"end\"".toList) ∧
      QuotesPaired "-- 'if' \"end\"".toList := by
  have hfeed : '\n' ∉ " 'if' \"end\"".toList := by decide
  have hreturn : '\r' ∉ " 'if' \"end\"".toList := by decide
  have hlength : " 'if' \"end\"".toList.length + 3 < 10 ^ maxDigits :=
    Nat.lt_of_lt_of_le (by decide : _ < maxDigits) (le_pow_maxDigits le_rfl)
  have hcomment := highlight_comment " 'if' \"end\"".toList hfeed hreturn hlength
  exact ⟨hfeed, hreturn, hlength, hcomment.1, hcomment.2, by decide +kernel⟩

/-- A source that comes down to one token is highlighted as what the token stands for. -/
theorem highlight_of_token {source stored out : Text} {index room : Nat}
    (hroom : Table.callRoom = room + 2)
    (htext : (classifySource source).text = Token.write index ++ lineEnd)
    (hstored : (classifySource source).table.get? index = some stored)
    (hlimit : index ≤ maxDigits)
    (hout : (classifySource source).table.expandText room index stored = .ok out) :
    highlight source = .ok out := by
  have hdigits : index < 10 ^ maxDigits := Nat.lt_of_le_of_lt hlimit (Nat.lt_pow_self (by decide))
  apply highlight_of_resolve
  rw [Table.resolve, Table.resolveWithin_eq, htext, hroom,
    Table.expandText_write_append (Table.index_lt_of_get? hstored) hdigits hstored, hout,
    Table.expandText_of_notMem (by decide)]
  rfl

/-- The apostrophe of a comment is closed on the next line, and the comment ends behind it. -/
theorem comment_takes_next_line :
    highlight "-- it's".toList = .ok "<span class=\"comment\">--<wbr>&nbsp;it's</span>".toList ∧
      highlight "-- it's\nx = 'a'".toList = .ok
        ("<span class=\"comment\">--<wbr>&nbsp;it".toList ++
          ("<span class=\"string\">'s<br>x<wbr>&nbsp;=<wbr>&nbsp;'</span>".toList ++
            "a'</span>".toList)) ∧
      ¬Apart "-- it's".toList "x = 'a'".toList := by
  have hline : (classifySource "-- it's".toList).text = Token.write 0 ++ lineEnd ∧
      (classifySource "-- it's".toList).table.get? 0 =
        some "<span class=\"comment\">--<wbr>&nbsp;it's</span>".toList := by
    decide +kernel
  have hlines : (classifySource "-- it's\nx = 'a'".toList).text = Token.write 1 ++ lineEnd ∧
      (classifySource "-- it's\nx = 'a'".toList).table.get? 1 =
        some ("<span class=\"comment\">--<wbr>&nbsp;it".toList ++
          (Token.write 0 ++ "a'</span>".toList)) ∧
      (classifySource "-- it's\nx = 'a'".toList).table.get? 0 =
        some "<span class=\"string\">'s<br>x<wbr>&nbsp;=<wbr>&nbsp;'</span>".toList := by
    decide +kernel
  obtain ⟨htext, hcomment, hstring⟩ := hlines
  have hroom : Table.callRoom = 986 + 2 + 2 := rfl
  have hfirst := highlight_of_token hroom hline.1 hline.2 (by decide)
    (Table.expandText_of_notMem (by decide))
  have hjoined := highlight_of_token hroom htext hcomment (by decide)
    (Table.expandText_append_of_notMem (by decide) (by
      rw [Table.expandText_write_append (by decide) (Nat.pow_pos (by decide)) hstring,
        Table.expandText_of_notMem (by decide), Table.expandText_of_notMem (by decide)]
      rfl))
  refine ⟨hfirst, hjoined, ?_⟩
  rintro ⟨first, second, hfirst', -, hapart⟩
  obtain rfl := Except.ok.inj (hfirst.symm.trans hfirst')
  have hmarkup := Except.ok.inj (hjoined.symm.trans hapart)
  -- they differ behind the letters `it`
  have hbehind := congrArg (·[37]?) hmarkup
  simp at hbehind

end LuaMarkup
