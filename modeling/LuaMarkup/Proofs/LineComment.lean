import LuaMarkup.Proofs.Pass

/-!
# Comments line by line

A text that ends in a line end falls into lines (`exists_isLines`), and in just one way
(`IsLines.unique`). The pass for comments looks for two dashes and then for the nearest line end,
anywhere in the text, and comes to the same as looking at each line alone (`Rule.pass_lines`): it
cuts a line at the first two dashes and puts a token for the rest (`comments_cut_lines`).
-/

namespace LuaMarkup

/-- The text is of these lines, each with a line end behind it. -/
def IsLines (text : Text) (lines : List Text) : Prop :=
  text = lines.flatMap (· ++ lineEnd) ∧ ∀ line ∈ lines, ¬lineEnd <:+: line

instance (text : Text) (lines : List Text) : Decidable (IsLines text lines) :=
  inferInstanceAs (Decidable (_ ∧ _))

namespace Line

/-- What stands before the first two dashes of a line, and what they begin. -/
def cut? : Text → Option (Text × Text)
  | [] => none
  | c :: rest =>
    if ['-', '-'] <+: c :: rest then some ([], c :: rest)
    else (cut? rest).map fun (code, comment) => (c :: code, comment)

def comments (lines : List Text) : List Text :=
  lines.filterMap fun line => (cut? line).map Prod.snd

/-- The text of these lines with tokens, numbered from `next`, in place of their comments. -/
def hide (next : Nat) : List Text → Text
  | [] => []
  | line :: lines =>
    match cut? line with
    | some (code, _) => code ++ (Token.write next ++ (lineEnd ++ hide (next + 1) lines))
    | none => line ++ (lineEnd ++ hide next lines)

theorem cut?_eq_none_iff {line : Text} : cut? line = none ↔ ¬['-', '-'] <:+: line := by
  fun_induction cut? line with
  | case1 => simp
  | case2 c rest hdashes => simpa using hdashes.isInfix
  | case3 c rest hdashes ih =>
    rw [Option.map_eq_none_iff, ih, List.infix_cons_iff, not_or]
    exact ⟨fun h => ⟨hdashes, h⟩, And.right⟩

/-- The dashes of a comment are the first of the line. -/
theorem cut?_eq_some_iff {line : Text} : cut? line = some (code, comment) ↔
    line = code ++ comment ∧ ['-', '-'] <+: comment ∧ ¬['-', '-'] <:+: code ++ ['-'] := by
  have hseam : ∀ {comment : Text}, ['-', '-'] <+: comment → ∀ code : Text,
      code ++ ['-'] <+: code ++ comment := fun hcomment code =>
    List.prefix_append_right_inj code |>.mpr ((List.prefix_append ['-'] ['-']).trans hcomment)
  fun_induction cut? line generalizing code comment with
  | case1 =>
    simp only [reduceCtorEq, false_iff]
    rintro ⟨hnil, hcomment, -⟩
    obtain ⟨rfl, rfl⟩ := List.append_eq_nil_iff.mp hnil.symm
    exact absurd hcomment (by decide)
  | case2 c rest hdashes =>
    constructor
    · intro h
      obtain ⟨rfl, rfl⟩ := Prod.mk.inj (Option.some.inj h)
      exact ⟨rfl, hdashes, by decide⟩
    · rintro ⟨heq, hcomment, hfirst⟩
      cases code with
      | nil => rw [heq, List.nil_append]
      | cons d code =>
        rw [heq] at hdashes
        refine absurd (List.prefix_of_prefix_length_le hdashes (hseam hcomment _) ?_).isInfix hfirst
        simp
  | case3 c rest hdashes ih =>
    rw [Option.map_eq_some_iff]
    constructor
    · rintro ⟨⟨code, comment⟩, hcut, heq⟩
      obtain ⟨rfl, rfl⟩ := Prod.mk.inj heq
      obtain ⟨rfl, hcomment, hfirst⟩ := ih.mp hcut
      refine ⟨rfl, hcomment, fun h => ?_⟩
      rcases List.infix_cons_iff.mp h with h | h
      · exact hdashes (h.trans (hseam hcomment (c :: code)))
      · exact hfirst h
    · rintro ⟨heq, hcomment, hfirst⟩
      cases code with
      | nil => exact absurd (heq ▸ hcomment) hdashes
      | cons d code =>
        obtain ⟨rfl, rfl⟩ := List.cons.inj heq
        exact ⟨(code, comment), ih.mpr ⟨rfl, hcomment, fun h => hfirst (List.infix_cons h)⟩, rfl⟩

end Line

-- ---------------------------------------------------------------------------
-- Lines
-- ---------------------------------------------------------------------------

theorem ne_append_of_not_isInfix {line mark : Text} (h : ¬mark <:+: line) :
    ∀ front stop back, Spells stop mark → line ≠ front ++ (stop ++ back) := by
  rintro front stop back hstop rfl
  obtain rfl := spells_text_iff.mp hstop
  exact h ⟨front, back, List.append_assoc ..⟩

theorem IsLines.unique (h : IsLines text lines) (h' : IsLines text others) : lines = others := by
  have hmark : '<' ∉ "br>".toList := by decide
  have hne : ∀ {line rest : Text}, [] ≠ line ++ lineEnd ++ rest := by simp [lineEnd]
  induction lines generalizing text others with
  | nil =>
    cases others with
    | nil => rfl
    | cons => exact absurd (h.1.symm.trans h'.1) hne
  | cons line lines ih =>
    cases others with
    | nil => exact absurd (h'.1.symm.trans h.1) hne
    | cons line' others =>
      obtain ⟨rfl, hlines⟩ := h
      obtain ⟨htext, hothers⟩ := h'
      obtain ⟨hline, hlater⟩ := List.forall_mem_cons.mp hlines
      obtain ⟨hline', hlater'⟩ := List.forall_mem_cons.mp hothers
      rw [List.flatMap_cons, List.flatMap_cons, List.append_assoc, List.append_assoc] at htext
      have hle := length_le_of_mark hmark (ne_append_of_not_isInfix hline) rfl rfl htext
      have hle' := length_le_of_mark hmark (ne_append_of_not_isInfix hline') rfl rfl htext.symm
      obtain ⟨rfl, htail⟩ := List.append_inj htext (Nat.le_antisymm hle hle')
      rw [ih ⟨rfl, hlater⟩ ⟨List.append_cancel_left htail, hlater'⟩]

theorem exists_isLines (text : Text) : ∃ lines ≠ [], IsLines (text ++ lineEnd) lines := by
  induction text with
  | nil => exact ⟨[[]], by simp, by decide⟩
  | cons c text ih =>
    obtain ⟨lines, hne, htext, hlines⟩ := ih
    obtain ⟨line, lines, rfl⟩ := List.exists_cons_of_ne_nil hne
    obtain ⟨hline, hlater⟩ := List.forall_mem_cons.mp hlines
    rw [List.flatMap_cons] at htext
    by_cases hfirst : lineEnd <:+: c :: line
    · obtain ⟨back, hback⟩ := (List.infix_cons_iff.mp hfirst).resolve_right hline
      rw [show lineEnd = '<' :: "br>".toList by decide, List.cons_append] at hback
      obtain ⟨rfl, rfl⟩ := List.cons.inj hback
      have hopen : ¬lineEnd <:+: back := fun h =>
        hline (h.trans (List.suffix_append _ back).isInfix)
      refine ⟨[] :: back :: lines, by simp, ?_, ?_⟩
      · rw [List.cons_append, htext, List.flatMap_cons, List.flatMap_cons]
        simp [lineEnd]
      · exact List.forall_mem_cons.mpr ⟨by decide, List.forall_mem_cons.mpr ⟨hopen, hlater⟩⟩
    · refine ⟨(c :: line) :: lines, by simp, ?_, ?_⟩
      · rw [List.cons_append, htext, List.flatMap_cons]
        rfl
      · exact List.forall_mem_cons.mpr ⟨hfirst, hlater⟩

-- ---------------------------------------------------------------------------
-- A pass
-- ---------------------------------------------------------------------------

namespace Rule

theorem match?_lineComment_eq_none {text : Text} (h : ¬['-', '-'] <+: text) :
    lineComment.match? text = none := by
  rw [match?_eq_none_iff]
  rintro m c r haccepts rfl
  cases haccepts with
  | lineComment hdashes =>
    obtain rfl := spells_text_iff.mp hdashes
    simp at h

theorem match?_comment {comment : Text} (hdashes : ['-', '-'] <+: comment)
    (hline : OnOneLine comment) (hend : ¬lineEnd <:+: comment) (rest : Text) :
    lineComment.match? (comment ++ (lineEnd ++ rest)) = some ⟨comment, lineEnd, rest⟩ := by
  obtain ⟨body, rfl⟩ := hdashes
  have hbody : ¬lineEnd <:+: body := fun h => hend (h.trans (List.suffix_append _ body).isInfix)
  rw [List.append_assoc]
  exact match?_eq_some_iff.mpr (shortest_to_lineEnd rfl (List.forall_mem_append.mp hline).2 rfl
    (ne_append_of_not_isInfix hbody) rest)

theorem pass_lineEnd (next : Nat) (rest : Text) : lineComment.pass next (lineEnd ++ rest) =
    (lineEnd ++ (lineComment.pass next rest).1, (lineComment.pass next rest).2) :=
  pass_append_of_notMem (by decide) next rest

/-- The pass over one line. -/
theorem pass_line {line : Text} (hline : OnOneLine line) (hend : ¬lineEnd <:+: line) (next : Nat)
    (rest : Text) : lineComment.pass next (line ++ (lineEnd ++ rest)) =
      match Line.cut? line with
      | some (code, comment) =>
        (code ++ (Token.write next ++ (lineEnd ++ (lineComment.pass (next + 1) rest).1)),
          ⟨lineComment, comment, lineEnd⟩ :: (lineComment.pass (next + 1) rest).2)
      | none => (line ++ (lineEnd ++ (lineComment.pass next rest).1),
          (lineComment.pass next rest).2) := by
  have hseam : ∀ {back behind : Text} {c}, back ≠ [] → ['-', '-'] <+: back ++ c :: behind →
      ['-', '-'] <+: back ++ [c] := by
    intro back behind c hne h
    refine List.prefix_of_prefix_length_le h ⟨behind, by simp⟩ ?_
    have := List.length_pos_iff.mpr hne
    simp only [List.length_append, List.length_cons, List.length_nil]
    omega
  cases hcut : Line.cut? line with
  | none =>
    have hdashes := Line.cut?_eq_none_iff.mp hcut
    have hskip : ∀ back, back <:+ line → back ≠ [] →
        lineComment.match? (back ++ (lineEnd ++ rest)) = none := by
      intro back hback hne
      refine match?_lineComment_eq_none fun h => hdashes ?_
      rcases List.prefix_concat_iff.mp (hseam hne h) with heq | h
      · have hlast := congrArg List.getLast? heq
        rw [List.getLast?_concat] at hlast
        exact absurd hlast (by decide)
      · exact h.isInfix.trans hback.isInfix
    rw [pass_append hskip, pass_lineEnd]
  | some parts =>
    obtain ⟨code, comment⟩ := parts
    obtain ⟨rfl, hdashes, hfirst⟩ := Line.cut?_eq_some_iff.mp hcut
    have hskip : ∀ back, back <:+ code → back ≠ [] →
        lineComment.match? (back ++ (comment ++ (lineEnd ++ rest))) = none := by
      rintro back ⟨front, rfl⟩ hne
      refine match?_lineComment_eq_none fun h => hfirst ?_
      obtain ⟨body, rfl⟩ := hdashes
      obtain ⟨behind, hbehind⟩ := hseam hne h
      exact ⟨front, behind, by rw [List.append_assoc, hbehind, List.append_assoc]⟩
    have hcomment : ¬lineEnd <:+: comment := fun h =>
      hend (h.trans (List.suffix_append code comment).isInfix)
    have hmatch := match?_comment hdashes (List.forall_mem_append.mp hline).2 hcomment rest
    rw [List.append_assoc, pass_append hskip, pass_of_match? hmatch, pass_lineEnd]

theorem pass_lines {lines : List Text} (hline : ∀ line ∈ lines, OnOneLine line)
    (hend : ∀ line ∈ lines, ¬lineEnd <:+: line) (next : Nat) :
    lineComment.pass next (lines.flatMap (· ++ lineEnd)) =
      (Line.hide next lines, (Line.comments lines).map (⟨lineComment, ·, lineEnd⟩)) := by
  induction lines generalizing next with
  | nil => exact pass_nil next
  | cons line lines ih =>
    obtain ⟨hfirst, hline⟩ := List.forall_mem_cons.mp hline
    obtain ⟨hopen, hend⟩ := List.forall_mem_cons.mp hend
    rw [List.flatMap_cons, List.append_assoc, pass_line hfirst hopen, ih hline hend,
      ih hline hend]
    cases hcut : Line.cut? line <;> simp [Line.hide, Line.comments, hcut]

end Rule

/-- A text that ends in a line end is cut line by line: each line with two dashes before the first
two, with a token for the comment that they begin, and all others not at all. -/
theorem comments_cut_lines (draft : Draft) (hfeed : '\n' ∉ draft.text)
    (hends : lineEnd <:+ draft.text) :
    ∃ lines ≠ [], (∀ others, IsLines draft.text others ↔ others = lines) ∧
      Rule.lineComment.apply draft =
        { text := Line.hide draft.table.size lines
          table := draft.table.append ((Line.comments lines).map Category.comment.wrap)
          trace := (Line.comments lines).map (⟨.lineComment, ·, lineEnd⟩) } := by
  obtain ⟨text, htext⟩ := hends
  obtain ⟨lines, hne, hlines⟩ := exists_isLines text
  rw [htext] at hlines
  refine ⟨lines, hne, fun others => ⟨fun h => h.unique hlines, fun h => h ▸ hlines⟩, ?_⟩
  have hline : ∀ line ∈ lines, OnOneLine line := by
    intro line hmem c hc hfeed'
    obtain rfl := Option.some.inj hfeed'
    refine hfeed (hlines.1 ▸ List.mem_flatMap.mpr ⟨line, hmem, List.mem_append_left _ hc⟩)
  have hpass := Rule.pass_lines hline hlines.2 draft.table.size
  rw [← hlines.1] at hpass
  rw [Rule.apply_of_pass hpass, List.map_map]
  rfl

/-- Dashes on their own, in runs and alone, and a line that begins with a token. -/
def dashedLines : Draft :=
  { text := "a<wbr>-b---c--<br>--<br>-<br>$0;--<wbr>d<br>".toList, table := ⟨#[['a']]⟩ }

theorem comments_cut_lines_dashed :
    '\n' ∉ dashedLines.text ∧ lineEnd <:+ dashedLines.text ∧
      (Rule.lineComment.apply dashedLines).text = "a<wbr>-b$1;<br>$2;<br>-<br>$0;$3;<br>".toList ∧
      (Rule.lineComment.apply dashedLines).trace.map Match.matched =
        ["---c--".toList, "--".toList, "--<wbr>d".toList] := by
  have hfeed : '\n' ∉ dashedLines.text := by decide
  have hends : lineEnd <:+ dashedLines.text := by decide
  obtain ⟨lines, -, hlines, happly⟩ := comments_cut_lines dashedLines hfeed hends
  obtain rfl := (hlines ["a<wbr>-b---c--".toList, "--".toList, ['-'],
    "$0;--<wbr>d".toList]).mp (by decide +kernel)
  rw [happly]
  exact ⟨hfeed, hends, by decide +kernel, by decide +kernel⟩

end LuaMarkup
