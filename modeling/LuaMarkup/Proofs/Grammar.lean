import LuaMarkup.Proofs.Content

/-!
# The language of highlighted text

`Page` is the grammar of what highlighting prints: escaped characters and six kinds of spans,
each of which says which spans it may hold. `highlight_page`: every source is highlighted to a
page, so each `<` of the result is part of a line end, of a space or of a tag that is nested
properly (`Nested`), whatever the source holds.
-/

namespace LuaMarkup

/-- Texts put together from the plain characters and entities in `direct` and the spans in
`span`. -/
inductive Words (direct span : Text → Prop) : Text → Prop
  | nil : Words direct span []
  | plain : Escape.IsPlain c → direct [c] → Words direct span text → Words direct span (c :: text)
  | entity : entity ∈ entities → direct entity → Words direct span text →
      Words direct span (entity ++ text)
  | span : span markup → Words direct span text → Words direct span (markup ++ text)

-- ---------------------------------------------------------------------------
-- Spans
-- ---------------------------------------------------------------------------

inductive EscapeSpan : Text → Prop
  | intro : c ∈ ['\\', '"', '\''] → EscapeSpan (Category.escape.wrap ['\\', c])

/-- A string in these quotes, none of which stands directly in it. -/
inductive QuotedSpan (quote : Char) (span : Text → Prop) : Text → Prop
  | intro : Words (· ≠ [quote]) span body →
      QuotedSpan quote span (Category.string.wrap (quote :: (body ++ [quote])))

def SingleQuotedSpan : Text → Prop :=
  QuotedSpan '\'' EscapeSpan

def InnerSpan (markup : Text) : Prop :=
  EscapeSpan markup ∨ SingleQuotedSpan markup

def DoubleQuotedSpan : Text → Prop :=
  QuotedSpan '"' InnerSpan

def TextSpan (markup : Text) : Prop :=
  InnerSpan markup ∨ DoubleQuotedSpan markup

/-- A comment, with no line end directly in it. -/
inductive CommentSpan : Text → Prop
  | intro : Words (· ≠ lineEnd) TextSpan body →
      CommentSpan (Category.comment.wrap ('-' :: '-' :: body))

inductive OperatorSpan : Text → Prop
  | intro : o ∈ operators.toList → OperatorSpan (Category.operator.wrap [o])

inductive KeywordSpan : Text → Prop
  | intro : word ∈ keywords → KeywordSpan (Category.keyword.wrap word.toList)

def PageSpan (markup : Text) : Prop :=
  TextSpan markup ∨ CommentSpan markup ∨ OperatorSpan markup ∨ KeywordSpan markup

def Page : Text → Prop :=
  Words (fun _ => True) PageSpan

-- ---------------------------------------------------------------------------
-- Nesting
-- ---------------------------------------------------------------------------

/-- Every `<` belongs to a line end, a word break or one of two matching tags. -/
inductive Nested : Text → Prop
  | nil : Nested []
  | char : c ≠ '<' → Nested text → Nested (c :: text)
  | lineEnd : Nested text → Nested ("<br>".toList ++ text)
  | wordBreak : Nested text → Nested ("<wbr>".toList ++ text)
  | span (category : Category) : Nested body → Nested text → Nested (category.wrap body ++ text)

theorem Nested.append (h : Nested text) (h' : Nested text') : Nested (text ++ text') := by
  induction h with
  | nil => exact h'
  | char hc _ ih => exact .char hc ih
  | lineEnd _ ih =>
    rw [List.append_assoc]
    exact .lineEnd ih
  | wordBreak _ ih =>
    rw [List.append_assoc]
    exact .wordBreak ih
  | span category hbody _ _ ih =>
    rw [List.append_assoc]
    exact .span category hbody ih

theorem nested_of_notMem (h : '<' ∉ text) : Nested text := by
  induction text with
  | nil => exact .nil
  | cons c text ih =>
    obtain ⟨hc, htext⟩ := not_or.mp fun hor => h (List.mem_cons.mpr hor)
    exact .char (Ne.symm hc) (ih htext)

theorem nested_entity {entity : Text} (h : entity ∈ entities) : Nested entity := by
  simp only [entities, List.mem_cons, List.not_mem_nil, or_false] at h
  rcases h with rfl | rfl | rfl | rfl
  · exact nested_of_notMem (by decide)
  · exact nested_of_notMem (by decide)
  · exact .lineEnd .nil
  · exact .wordBreak (nested_of_notMem (by decide : '<' ∉ "&nbsp;".toList))

theorem nested_wrap (category : Category) (h : Nested body) : Nested (category.wrap body) := by
  rw [← List.append_nil (category.wrap body)]
  exact .span category h .nil

theorem Words.nested {direct span : Text → Prop} (h : Words direct span text)
    (hspan : ∀ markup, span markup → Nested markup) : Nested text := by
  induction h with
  | nil => exact .nil
  | plain hplain _ _ ih =>
    refine .char ?_ ih
    rintro rfl
    exact absurd hplain (by decide)
  | entity hmem _ _ ih => exact (nested_entity hmem).append ih
  | span hs _ ih => exact (hspan _ hs).append ih

theorem EscapeSpan.nested (h : EscapeSpan markup) : Nested markup := by
  obtain ⟨hmem⟩ := h
  have hnone : ∀ c ∈ ['\\', '"', '\''], '<' ∉ ['\\', c] := by decide
  exact nested_wrap _ (nested_of_notMem (hnone _ hmem))

theorem QuotedSpan.nested (hquote : quote ≠ '<') (h : QuotedSpan quote span markup)
    (hspan : ∀ markup, span markup → Nested markup) : Nested markup := by
  obtain ⟨hbody⟩ := h
  exact nested_wrap _ (.char hquote ((hbody.nested hspan).append (.char hquote .nil)))

theorem SingleQuotedSpan.nested (h : SingleQuotedSpan markup) : Nested markup :=
  QuotedSpan.nested (by decide) h fun _ => EscapeSpan.nested

theorem InnerSpan.nested (h : InnerSpan markup) : Nested markup :=
  h.elim EscapeSpan.nested SingleQuotedSpan.nested

theorem DoubleQuotedSpan.nested (h : DoubleQuotedSpan markup) : Nested markup :=
  QuotedSpan.nested (by decide) h fun _ => InnerSpan.nested

theorem TextSpan.nested (h : TextSpan markup) : Nested markup :=
  h.elim InnerSpan.nested DoubleQuotedSpan.nested

theorem PageSpan.nested (h : PageSpan markup) : Nested markup := by
  rcases h with h | ⟨⟨hbody⟩⟩ | ⟨⟨hmem⟩⟩ | ⟨⟨hmem⟩⟩
  · exact h.nested
  · have hinside := hbody.nested fun _ => TextSpan.nested
    exact nested_wrap _ (.char (by decide) (.char (by decide) hinside))
  · have hnone : ∀ o ∈ operators.toList, '<' ∉ [o] := by decide
    exact nested_wrap _ (nested_of_notMem (hnone _ hmem))
  · exact nested_wrap _ (nested_of_notMem (Rule.notMem_of_mem_keywords _ hmem))

-- ---------------------------------------------------------------------------
-- What each rule adds
-- ---------------------------------------------------------------------------

/-- The box is printed as such a span. -/
def PrintsAs (span : Text → Prop) (category : Category) (content : List Item) : Prop :=
  span (category.wrap (Item.renderAll content))

theorem Content.words (h : Content direct (PrintsAs span) items) :
    Words direct span (Item.renderAll items) := by
  induction h with
  | nil => exact .nil
  | plain hplain hdirect _ ih => exact .plain hplain hdirect ih
  | entity hmem hdirect _ ih =>
    rw [Item.renderAll_append, Item.renderAll_ofText]
    exact .entity hmem hdirect ih
  | box hspan _ ih => exact .span hspan ih

variable {span : Category → List Item → Prop} {items : List Item} {hit : Hit Item}

/-- The shortest match between quotes has no quote directly in it. -/
theorem Content.of_quoted {rule : Rule} {quote : Char}
    (hrule : ∀ m : List Item, Quoted quote m → rule.Accepts m [])
    (hplain : Escape.IsPlain quote) (hinner : quote ∉ innerCharacters)
    (hm : Quoted quote hit.matched) (hshort : rule.Shortest items hit)
    (h : Content (fun _ => True) span hit.matched) :
    ∃ body, hit.matched = .char quote :: (body ++ [.char quote]) ∧
      Content (· ≠ [quote]) span body := by
  obtain ⟨first, body, last, heq, hfirst, hbody, hlast⟩ := hm
  obtain rfl := Item.char?_eq_some_iff.mp hfirst
  obtain rfl := Item.char?_eq_some_iff.mp hlast
  refine ⟨body, heq, ?_⟩
  rw [heq] at h
  have hquote : ∀ c ∈ [quote], Escape.IsPlain c := by simpa using hplain
  have hinside := (cut_before hinner (cut_plain hquote h).2).1
  refine hinside.imp ?_ fun _ _ => id
  -- a quote in the body would have ended the match there
  rintro front piece back rfl - rfl
  have hshorter : Quoted quote (.char quote :: (front ++ [.char quote])) :=
    ⟨_, front, _, rfl, rfl, fun a ha => hbody a (List.mem_append_left _ ha), rfl⟩
  have hleast := hshort.least _ [] (back ++ .char quote :: (hit.context ++ hit.rest))
    (hrule _ hshorter) (by rw [hshort.items_eq, heq]; simp)
  rw [heq] at hleast
  simp at hleast

theorem Content.of_comment (hshort : Rule.lineComment.Shortest items hit)
    (h : Content (fun _ => True) span hit.matched) :
    ∃ body, hit.matched = .char '-' :: .char '-' :: body ∧ Content (· ≠ lineEnd) span body := by
  have haccepts := hshort.accepts
  generalize hmatched : hit.matched = m at h haccepts
  generalize hcontext : hit.context = c at haccepts
  cases haccepts with
  | @lineComment dashes body _ hdashes hbody hc =>
    obtain rfl := Item.spells_iff.mp hdashes
    refine ⟨body, rfl, ?_⟩
    refine (cut_plain (by decide) h).2.imp ?_ fun _ _ => id
    -- so would a line end, which is all that has to follow a comment
    rintro front piece back rfl - rfl
    have hleast := hshort.least _ _ (back ++ (hit.context ++ hit.rest))
      (.lineComment hdashes (fun a ha => hbody a (List.mem_append_left _ ha))
        (Item.spells_iff.mpr rfl)) (by rw [hshort.items_eq, hmatched]; simp [lineEnd])
    rw [hmatched] at hleast
    simp only [List.length_append] at hleast
    have hfour : (Item.ofText lineEnd).length = 4 := rfl
    omega

theorem printsAs_quoted {rule : Rule} {quote : Char} {span : Text → Prop}
    (hrule : rule.quote? = some quote)
    (hplain : Escape.IsPlain quote) (hinner : quote ∉ innerCharacters)
    (hshort : rule.Shortest items hit)
    (h : Content (fun _ => True) (PrintsAs span) hit.matched) :
    PrintsAs (QuotedSpan quote span) .string hit.matched := by
  have hquoted := ((Rule.accepts_of_quote? hrule).mp hshort.accepts).1
  obtain ⟨body, heq, hbody⟩ := h.of_quoted
    (fun _ hm => (Rule.accepts_of_quote? hrule).mpr ⟨hm, rfl⟩) hplain hinner hquoted hshort
  have hrender : Item.renderAll hit.matched = quote :: (Item.renderAll body ++ [quote]) := by
    simp [heq, Item.renderAll, Item.render]
  rw [PrintsAs, hrender]
  exact .intro hbody.words

theorem printsAs_comment (hshort : Rule.lineComment.Shortest items hit)
    (h : Content (fun _ => True) (PrintsAs TextSpan) hit.matched) :
    PrintsAs CommentSpan .comment hit.matched := by
  obtain ⟨body, heq, hbody⟩ := h.of_comment hshort
  rw [PrintsAs, heq]
  exact .intro hbody.words

theorem printsAs_doubleBackslash {m c : List Item} (h : Rule.doubleBackslash.Accepts m c) :
    PrintsAs EscapeSpan .escape m := by
  cases h with
  | doubleBackslash hspell =>
    rw [PrintsAs, Item.spells_iff.mp hspell, Item.renderAll_ofText]
    exact .intro (by decide)

theorem printsAs_escapedQuote {m c : List Item} (h : Rule.escapedQuote.Accepts m c) :
    PrintsAs EscapeSpan .escape m := by
  cases h with
  | escapedQuote hquote hspell =>
    rw [PrintsAs, Item.spells_iff.mp hspell, Item.renderAll_ofText]
    exact .intro (List.mem_cons_of_mem _ hquote)

theorem printsAs_operator {m c : List Item} (h : Rule.operator.Accepts m c) :
    PrintsAs OperatorSpan .operator m := by
  cases h with
  | operator hmem hspell =>
    rw [PrintsAs, Item.spells_iff.mp hspell, Item.renderAll_ofText]
    exact .intro hmem

theorem printsAs_keyword {m c : List Item} (h : Rule.keyword.Accepts m c) :
    PrintsAs KeywordSpan .keyword m := by
  cases h with
  | keyword hmem hspell =>
    rw [PrintsAs, Item.spells_iff.mp hspell, Item.renderAll_ofText]
    exact .intro hmem

-- ---------------------------------------------------------------------------
-- All passes
-- ---------------------------------------------------------------------------

/-- A pass whose matches are printed as spans of the next level. -/
theorem Content.pass {rule : Rule} {span span' : Text → Prop}
    (h : Content (fun _ => True) (PrintsAs span) items)
    (hspan : ∀ markup, span markup → span' markup)
    (hmatch : ∀ items hit, Content (fun _ => True) (PrintsAs span) hit.matched →
      rule.Shortest items hit → PrintsAs span' rule.category hit.matched) :
    Content (fun _ => True) (PrintsAs span') (rule.box items) :=
  h.box_of_shortest (fun _ _ => hspan _) hmatch

/-- Each pass finds only what the passes before it have left, so a string holds no comment and
a comment no operator. -/
theorem content_boxedSource (source : Text) :
    Content (fun _ => True) (PrintsAs PageSpan) (boxedSource Rule.all source) := by
  rw [boxedSource, boxAll, Rule.all]
  simp only [List.foldl_cons, List.foldl_nil]
  generalize hstart : Item.ofText (Escape.plain source ++ lineEnd) = items
  have hescaped : Content (fun _ => True) (PrintsAs EscapeSpan) items :=
    hstart ▸ content_ofText_plain_lineEnd source
  have hbackslashes : Content (fun _ => True) (PrintsAs EscapeSpan)
      (Rule.box .doubleBackslash _) :=
    hescaped.pass (fun _ => id) fun _ _ _ hshort => printsAs_doubleBackslash hshort.accepts
  have hescapes : Content (fun _ => True) (PrintsAs EscapeSpan) (Rule.box .escapedQuote _) :=
    hbackslashes.pass (fun _ => id) fun _ _ _ hshort => printsAs_escapedQuote hshort.accepts
  have hsingle : Content (fun _ => True) (PrintsAs InnerSpan) (Rule.box .singleQuoted _) :=
    hescapes.pass (fun _ => .inl) fun _ _ hm hshort =>
      .inr (printsAs_quoted rfl (by decide) (by decide) hshort hm)
  have hstrings : Content (fun _ => True) (PrintsAs TextSpan) (Rule.box .doubleQuoted _) :=
    hsingle.pass (fun _ => .inl) fun _ _ hm hshort =>
      .inr (printsAs_quoted rfl (by decide) (by decide) hshort hm)
  have hcomments : Content (fun _ => True) (PrintsAs PageSpan) (Rule.box .lineComment _) :=
    hstrings.pass (fun _ => .inl) fun _ _ hm hshort => .inr (.inl (printsAs_comment hshort hm))
  have hoperators : Content (fun _ => True) (PrintsAs PageSpan) (Rule.box .operator _) :=
    hcomments.pass (fun _ => id) fun _ _ _ hshort =>
      .inr (.inr (.inl (printsAs_operator hshort.accepts)))
  exact hoperators.pass (fun _ => id) fun _ _ _ hshort =>
    .inr (.inr (.inr (printsAs_keyword hshort.accepts)))

/-- Highlighting prints a page, whatever the source holds. -/
theorem highlight_page (source : Text) (h : source.length ≤ 10 ^ maxDigits) :
    ∃ markup, highlight source = .ok markup ∧ Page markup ∧ Nested markup := by
  obtain ⟨items, hboxed⟩ := exists_boxedSource_eq Rule.all source
  have hcontent := content_boxedSource source
  rw [hboxed] at hcontent
  have hpage := (hcontent.cut_before (by decide : '<' ∉ innerCharacters)).1.words
  have hresolve := resolve_classifySource (size_classifySource_le h) hboxed
  exact ⟨_, highlight_of_resolve hresolve, hpage, hpage.nested fun _ => PageSpan.nested⟩

/-- Markup in the source does not come through as markup. -/
theorem highlight_page_script :
    "x = '</span><script>' --<br>".toList.length ≤ 10 ^ maxDigits ∧
      ∃ markup, highlight "x = '</span><script>' --<br>".toList = .ok markup ∧ Page markup ∧
        Nested markup := by
  have hlength := le_pow_maxDigits (by decide : "x = '</span><script>' --<br>".toList.length ≤ _)
  exact ⟨hlength, highlight_page _ hlength⟩

end LuaMarkup
