import LuaMarkup.Proofs.Pass

/-!
# Backslashes in pairs

A source read from left to right falls into `Sign`s: pairs of backslashes, quotes behind a
backslash, and all other characters. The two passes for escapes, each over the whole text, come to
this one reading: they hide the pairs and then the escaped quotes, and nothing else
(`passes_write`). A run of backslashes is read by its length alone (`ofSource_replicate_append`), so
a quote is left to open or close a string just if an even number of backslashes stands before it
(`escapes_by_parity`).
-/

namespace LuaMarkup

/-- What a source is made of where backslashes escape quotes and one another. -/
inductive Sign where
  | pair
  | quote (q : Char)
  | char (c : Char)
deriving DecidableEq, Repr

namespace Sign

def spell : Sign → Text
  | .pair => ['\\', '\\']
  | .quote q => ['\\', q]
  | .char c => [c]

def quoted? : Sign → Option Char
  | .quote q => some q
  | _ => none

def read : Text → List Sign
  | '\\' :: c :: rest =>
    if c = '\\' then .pair :: read rest
    else if c ∈ ['"', '\''] then .quote c :: read rest
    else .char '\\' :: read (c :: rest)
  | c :: rest => .char c :: read rest
  | [] => []

def ofSource (source : Text) : List Sign :=
  read (Text.joinLineEnds source)

/-- What the passes for escapes leave: tokens for the sentinels, the pairs and the escaped quotes,
each kind numbered on its own. -/
def write (sentinels pairs quotes : Nat) : List Sign → Text
  | [] => []
  | .pair :: rest => Token.write pairs ++ write sentinels (pairs + 1) quotes rest
  | .quote _ :: rest => Token.write quotes ++ write sentinels pairs (quotes + 1) rest
  | .char c :: rest =>
    if c = sentinel then Token.write sentinels ++ write (sentinels + 1) pairs quotes rest
    else Escape.character c ++ write sentinels pairs quotes rest

/-- The matches of the first pass. -/
def pairMatches (signs : List Sign) : List Match :=
  List.replicate (signs.count .pair) ⟨.doubleBackslash, ['\\', '\\'], []⟩

/-- The matches of the second pass. -/
def quoteMatches (signs : List Sign) : List Match :=
  (signs.filterMap quoted?).map fun q => ⟨.escapedQuote, ['\\', q], []⟩

@[simp] theorem pairMatches_pair (signs : List Sign) :
    pairMatches (.pair :: signs) = ⟨.doubleBackslash, ['\\', '\\'], []⟩ :: pairMatches signs := by
  simp [pairMatches, List.replicate_succ]

@[simp] theorem pairMatches_quote (q : Char) (signs : List Sign) :
    pairMatches (.quote q :: signs) = pairMatches signs := by
  simp [pairMatches]

@[simp] theorem pairMatches_char (c : Char) (signs : List Sign) :
    pairMatches (.char c :: signs) = pairMatches signs := by
  simp [pairMatches]

@[simp] theorem quoteMatches_pair (signs : List Sign) :
    quoteMatches (.pair :: signs) = quoteMatches signs := rfl

@[simp] theorem quoteMatches_quote (q : Char) (signs : List Sign) :
    quoteMatches (.quote q :: signs) = ⟨.escapedQuote, ['\\', q], []⟩ :: quoteMatches signs := rfl

@[simp] theorem quoteMatches_char (c : Char) (signs : List Sign) :
    quoteMatches (.char c :: signs) = quoteMatches signs := rfl

/-- What a backslash without a partner and the source behind it are read as. -/
def lone : Text → List Sign
  | [] => [.char '\\']
  | c :: rest =>
    if c ∈ ['"', '\''] then .quote c :: ofSource rest else .char '\\' :: ofSource (c :: rest)

/-- What `k` backslashes and the source behind them are read as. -/
def run (k : Nat) (back : Text) : List Sign :=
  List.replicate (k / 2) .pair ++ if k % 2 = 0 then ofSource back else lone back

-- ---------------------------------------------------------------------------
-- Reading
-- ---------------------------------------------------------------------------

theorem ne_backslash_of_quote {q : Char} (h : q ∈ ['"', '\'']) : q ≠ '\\' := by
  rintro rfl
  exact absurd h (by decide)

theorem ne_sentinel_of_quote {q : Char} (h : q ∈ ['"', '\'']) : q ≠ sentinel := by
  rintro rfl
  exact absurd h (by decide)

theorem isPlain_of_quote {q : Char} (h : q ∈ ['"', '\'']) : Escape.IsPlain q := by
  have hplain : ∀ q ∈ ['"', '\''], Escape.IsPlain q := by decide
  exact hplain q h

theorem read_pair (rest : Text) : read ('\\' :: '\\' :: rest) = .pair :: read rest := rfl

theorem read_quote {q : Char} (h : q ∈ ['"', '\'']) (rest : Text) :
    read ('\\' :: q :: rest) = .quote q :: read rest := by
  rw [read, if_neg (ne_backslash_of_quote h), if_pos h]

theorem read_char {c : Char} (h : c ≠ '\\') (rest : Text) :
    read (c :: rest) = .char c :: read rest := by
  rw [read]
  rintro _ _ rfl
  exact absurd rfl h

theorem read_backslash {back : Text} (h : ∀ c ∈ ['\\', '"', '\''], back.head? ≠ some c) :
    read ('\\' :: back) = .char '\\' :: read back := by
  cases back with
  | nil => rfl
  | cons c rest =>
    have hc : c ∉ ['\\', '"', '\''] := fun hmem => h c hmem rfl
    simp only [List.mem_cons, List.not_mem_nil, or_false, not_or] at hc
    simp [read, hc]

theorem flatMap_spell_read (text : Text) : (read text).flatMap spell = text := by
  fun_induction read text with
  | case1 rest ih => simp [spell, ih]
  | case2 c rest _ _ ih => simp [spell, ih]
  | case3 c rest _ _ ih => simpa [spell] using ih
  | case4 c rest _ ih => simp [spell, ih]
  | case5 => rfl

/-- Nothing is read across a seam that has no backslash before it. -/
theorem read_append {front : Text} (h : front.getLast? ≠ some '\\') (back : Text) :
    read (front ++ back) = read front ++ read back := by
  have htail : ∀ {c : Char} {rest : Text}, (c :: rest).getLast? ≠ some '\\' →
      rest.getLast? ≠ some '\\' := by
    intro c rest hlast heq
    exact hlast (by rw [List.getLast?_cons, heq]; rfl)
  fun_induction read front with
  | case1 rest ih =>
    rw [List.cons_append, List.cons_append, read_pair, ih (htail (htail h)), List.cons_append]
  | case2 c rest _ hc ih =>
    rw [List.cons_append, List.cons_append, read_quote hc, ih (htail (htail h)), List.cons_append]
  | case3 c rest hc hquote ih =>
    rw [List.cons_append, List.cons_append, read, if_neg hc, if_neg hquote, ← List.cons_append,
      ih (htail h), List.cons_append]
  | case4 c rest hpair ih =>
    have hc : c ≠ '\\' := by
      rintro rfl
      cases rest with
      | nil => exact h rfl
      | cons d rest => exact hpair d rest rfl rfl
    rw [List.cons_append, read_char hc, ih (htail h), List.cons_append]
  | case5 => rfl

theorem read_replicate_even (j : Nat) (back : Text) :
    read (List.replicate (2 * j) '\\' ++ back) = List.replicate j .pair ++ read back := by
  induction j with
  | zero => rfl
  | succ j ih =>
    rw [Nat.mul_succ, List.replicate_succ, List.replicate_succ, List.cons_append,
      List.cons_append, read_pair, ih, List.replicate_succ, List.cons_append]

theorem read_replicate_odd (j : Nat) (back : Text) :
    read (List.replicate (2 * j + 1) '\\' ++ back) =
      List.replicate j .pair ++ read ('\\' :: back) := by
  rw [List.replicate_succ', List.append_assoc, read_replicate_even, List.singleton_append]

-- ---------------------------------------------------------------------------
-- Sources
-- ---------------------------------------------------------------------------

theorem ofSource_append {front back : Text} (hlast : front.getLast? ≠ some '\\')
    (hseam : back.head? ≠ some '\n') :
    ofSource (front ++ back) = ofSource front ++ ofSource back := by
  rw [ofSource, Escape.joinLineEnds_append_of_seam fun _ => hseam, read_append, ofSource, ofSource]
  rwa [Escape.getLast?_joinLineEnds]

theorem ofSource_cons {c : Char} (hreturn : c ≠ '\r') (hbackslash : c ≠ '\\') (rest : Text) :
    ofSource (c :: rest) = .char c :: ofSource rest := by
  rw [ofSource, Escape.joinLineEnds_cons hreturn, read_char hbackslash, ofSource]

/-- A backslash without a partner takes a quote with it, and nothing else. -/
theorem read_lone {back : Text} (hback : back.head? ≠ some '\\') :
    read ('\\' :: Text.joinLineEnds back) = lone back := by
  cases back with
  | nil => rfl
  | cons c rest =>
    have hc : c ≠ '\\' := fun heq => hback (by rw [heq]; rfl)
    by_cases hquote : c ∈ ['"', '\'']
    · have hreturn : c ≠ '\r' := by
        rintro rfl
        exact absurd hquote (by decide)
      rw [Escape.joinLineEnds_cons hreturn, read_quote hquote, lone, if_pos hquote, ofSource]
    · rw [lone, if_neg hquote, ofSource]
      refine read_backslash fun e he heq => ?_
      have hfeed : e ≠ '\n' := by
        rintro rfl
        exact absurd he (by decide)
      obtain rfl := Option.some.inj (Escape.head?_of_joinLineEnds hfeed heq)
      rcases List.mem_cons.mp he with rfl | he
      · exact hc rfl
      · exact hquote he

theorem joinLineEnds_replicate_append (k : Nat) (back : Text) :
    Text.joinLineEnds (List.replicate k '\\' ++ back) =
      List.replicate k '\\' ++ Text.joinLineEnds back := by
  refine Escape.joinLineEnds_append (fun hmem => ?_) back
  exact absurd (List.eq_of_mem_replicate hmem) (by decide)

/-- A run of backslashes is read by its length and by what is behind it. -/
theorem ofSource_replicate_append {back : Text} (hback : back.head? ≠ some '\\') (k : Nat) :
    ofSource (List.replicate k '\\' ++ back) = run k back := by
  rw [ofSource, joinLineEnds_replicate_append, run]
  rcases Nat.even_or_odd' k with ⟨j, rfl | rfl⟩
  · rw [read_replicate_even, if_pos (by omega), Nat.mul_div_cancel_left j (by decide), ofSource]
  · rw [read_replicate_odd, read_lone hback, if_neg (by omega), show (2 * j + 1) / 2 = j by omega]

theorem ofSource_append_run {front back : Text} (hfront : front.getLast? ≠ some '\\')
    (hback : back.head? ≠ some '\\') (hseam : 0 < k ∨ back.head? ≠ some '\n') :
    ofSource (front ++ (List.replicate k '\\' ++ back)) = ofSource front ++ run k back := by
  rw [ofSource_append hfront, ofSource_replicate_append hback]
  cases k with
  | zero => simpa using hseam
  | succ k => simp [List.replicate_succ]

theorem flatMap_spell_run (front : Text) (k : Nat) :
    (ofSource front ++ List.replicate (k / 2) Sign.pair).flatMap spell ++
        List.replicate (k % 2) '\\' =
      Text.joinLineEnds (front ++ List.replicate k '\\') := by
  have hpairs : ∀ j, (List.replicate j Sign.pair).flatMap spell = List.replicate (2 * j) '\\' := by
    intro j
    rw [← List.append_nil (List.replicate j Sign.pair), ← show read [] = [] from rfl,
      ← read_replicate_even, flatMap_spell_read, List.append_nil]
  have hseam : (List.replicate k '\\').head? ≠ some '\n' := by
    cases k <;> simp [List.replicate_succ]
  have hjoin : Text.joinLineEnds (List.replicate k '\\') = List.replicate k '\\' := by
    simpa [Text.joinLineEnds] using joinLineEnds_replicate_append k []
  rw [Escape.joinLineEnds_append_of_seam fun _ => hseam, hjoin, List.flatMap_append, hpairs,
    ofSource, flatMap_spell_read, List.append_assoc, List.replicate_append_replicate,
    Nat.div_add_mod]

end Sign

-- ---------------------------------------------------------------------------
-- One pass
-- ---------------------------------------------------------------------------

/-- The rule looks for a backslash and one of the characters behind it. -/
def Rule.Escapes (rule : Rule) (allowed : List Char) : Prop :=
  rule.alternatives = [.each [['\\'], allowed] []]

theorem escapes_doubleBackslash : Rule.doubleBackslash.Escapes ['\\'] := rfl

theorem backslash_notMem_write : ∀ next, '\\' ∉ Token.write next :=
  notMem_write_of_mem_marks (by decide : '\\' ∈ Rule.escapedQuote.marks)

theorem escapes_escapedQuote : Rule.escapedQuote.Escapes ['"', '\''] := rfl

namespace Rule.Escapes

variable {rule : Rule} {allowed : List Char} {next : Nat}

theorem match?_cons_cons (h : rule.Escapes allowed) (c : Char) (rest : Text) :
    rule.match? ('\\' :: c :: rest) =
      if c ∈ allowed then some ⟨['\\', c], [], rest⟩ else none := by
  rw [match?_of_alternatives_eq h]
  by_cases hc : c ∈ allowed <;>
    simp [Pattern.match?, Pattern.fixed?, Pattern.cut?, Pattern.exactly, Glyph.char?, hc]

theorem match?_of_ne (h : rule.Escapes allowed) {c : Char} (hc : c ≠ '\\') (rest : Text) :
    rule.match? (c :: rest) = none := by
  rw [match?_of_alternatives_eq h]
  simp [Pattern.match?, Pattern.fixed?, Pattern.cut?, Glyph.char?, hc]

theorem pass_append (h : rule.Escapes allowed) {front : Text} (hfront : '\\' ∉ front)
    (next : Nat) (rest : Text) :
    rule.pass next (front ++ rest) =
      (front ++ (rule.pass next rest).1, (rule.pass next rest).2) := by
  refine Rule.pass_append (fun back hback hne => ?_) next
  obtain ⟨c, back, rfl⟩ := List.exists_cons_of_ne_nil hne
  exact h.match?_of_ne (fun heq => hfront (heq ▸ hback.mem List.mem_cons_self)) (back ++ rest)

theorem pass_of_mem (h : rule.Escapes allowed) {c : Char} (hc : c ∈ allowed) (rest : Text) :
    rule.pass next ('\\' :: c :: rest) =
      (Token.write next ++ (rule.pass (next + 1) rest).1,
        ⟨rule, ['\\', c], []⟩ :: (rule.pass (next + 1) rest).2) := by
  have hmatch := h.match?_cons_cons c rest
  rw [if_pos hc] at hmatch
  exact pass_of_match? hmatch next

theorem pass_of_notMem (h : rule.Escapes allowed) {c : Char} (hc : c ∉ allowed) (rest : Text) :
    rule.pass next ('\\' :: c :: rest) =
      ('\\' :: (rule.pass next (c :: rest)).1, (rule.pass next (c :: rest)).2) := by
  have hmatch := h.match?_cons_cons c rest
  rw [if_neg hc] at hmatch
  exact pass_of_match?_eq_none hmatch next

end Rule.Escapes

-- ---------------------------------------------------------------------------
-- Both passes
-- ---------------------------------------------------------------------------

/-- A text after both passes for escapes, and the matches of each. -/
structure Passed where
  text : Text
  pairs : List Match
  quotes : List Match

/-- The pass for pairs and then the one for quotes, with tokens from these indices on. -/
def passes (pairs quotes : Nat) (text : Text) : Passed :=
  let first := Rule.doubleBackslash.pass pairs text
  let second := Rule.escapedQuote.pass quotes first.1
  { text := second.1, pairs := first.2, quotes := second.2 }

section
variable {pairs quotes : Nat}

theorem passes_nil : passes pairs quotes [] = ⟨[], [], []⟩ := by
  simp [passes, Rule.pass_nil]

theorem passes_append {front : Text} (h : '\\' ∉ front) (rest : Text) :
    passes pairs quotes (front ++ rest) =
      { passes pairs quotes rest with text := front ++ (passes pairs quotes rest).text } := by
  simp only [passes, escapes_doubleBackslash.pass_append h, escapes_escapedQuote.pass_append h]

theorem passes_pair (rest : Text) : passes pairs quotes ('\\' :: '\\' :: rest) =
    { passes (pairs + 1) quotes rest with
      text := Token.write pairs ++ (passes (pairs + 1) quotes rest).text
      pairs := ⟨.doubleBackslash, ['\\', '\\'], []⟩ ::
        (passes (pairs + 1) quotes rest).pairs } := by
  simp only [passes, escapes_doubleBackslash.pass_of_mem (List.mem_singleton.mpr rfl),
    escapes_escapedQuote.pass_append (backslash_notMem_write pairs)]

theorem passes_quote {q : Char} (h : q ∈ ['"', '\'']) (rest : Text) :
    passes pairs quotes ('\\' :: q :: rest) =
      { passes pairs (quotes + 1) rest with
        text := Token.write quotes ++ (passes pairs (quotes + 1) rest).text
        quotes := ⟨.escapedQuote, ['\\', q], []⟩ ::
          (passes pairs (quotes + 1) rest).quotes } := by
  have hpair : q ∉ ['\\'] := List.mem_singleton.not.mpr (Sign.ne_backslash_of_quote h)
  have hq : '\\' ∉ [q] := List.mem_singleton.not.mpr (Sign.ne_backslash_of_quote h).symm
  have hfirst := escapes_doubleBackslash.pass_append hq pairs rest
  rw [List.singleton_append] at hfirst
  simp only [passes, escapes_doubleBackslash.pass_of_notMem hpair, hfirst, List.singleton_append,
    escapes_escapedQuote.pass_of_mem h]

theorem passes_lineEnd : passes pairs quotes lineEnd = ⟨lineEnd, [], []⟩ := by
  have hlineEnd : '\\' ∉ lineEnd := by decide
  rw [← List.append_nil lineEnd, passes_append hlineEnd, passes_nil]

/-- A backslash before what neither escapes nor is escaped stays. -/
theorem passes_lone {c : Char} (h : c ∉ ['\\', '"', '\'']) (rest : Text) :
    passes pairs quotes ('\\' :: c :: rest) =
      { passes pairs quotes (c :: rest) with
        text := '\\' :: (passes pairs quotes (c :: rest)).text } := by
  obtain ⟨hpair, hquote⟩ : c ∉ ['\\'] ∧ c ∉ ['"', '\''] := by simpa using h
  have hc : '\\' ∉ [c] := by
    rw [List.mem_singleton] at hpair ⊢
    exact Ne.symm hpair
  have hfirst := escapes_doubleBackslash.pass_append hc pairs rest
  rw [List.singleton_append] at hfirst
  simp only [passes, escapes_doubleBackslash.pass_of_notMem hpair, hfirst, List.singleton_append,
    escapes_escapedQuote.pass_of_notMem hquote]

end

/-- What is written for a character that neither escapes nor is escaped begins with such a one. -/
theorem exists_write_eq_cons {c : Char} (h : c ∉ ['\\', '"', '\'']) (next : Nat) (rest : Text) :
    ∃ d tail, Escape.write next (c :: rest) = d :: tail ∧ d ∉ ['\\', '"', '\''] := by
  rw [Escape.write]
  by_cases hc : c = sentinel
  · rw [if_pos hc]
    exact ⟨sentinel, _, rfl, by decide⟩
  · rw [if_neg hc]
    obtain ⟨d, tail, heq⟩ := List.exists_cons_of_ne_nil (Escape.character_ne_nil c)
    refine ⟨d, tail ++ Escape.write next rest, by rw [heq, List.cons_append], ?_⟩
    rcases Escape.mem_character (heq ▸ List.mem_cons_self : d ∈ Escape.character c) with rfl | hd
    · exact h
    · have hentities : ∀ d ∈ entities.flatten, d ∉ ['\\', '"', '\''] := by decide
      exact hentities d hd

/-- The two passes over an escaped source come to one reading of the source. -/
theorem passes_write (text : Text) (sentinels pairs quotes : Nat) :
    passes pairs quotes (Escape.write sentinels text ++ lineEnd) =
      { text := Sign.write sentinels pairs quotes (Sign.read text) ++ lineEnd
        pairs := Sign.pairMatches (Sign.read text)
        quotes := Sign.quoteMatches (Sign.read text) } := by
  have hbackslash : ∀ next rest,
      Escape.write next ('\\' :: rest) = '\\' :: Escape.write next rest :=
    Escape.write_cons_of_isPlain (by decide) (by decide)
  fun_induction Sign.read text generalizing sentinels pairs quotes with
  | case1 rest ih =>
    rw [hbackslash, hbackslash, List.cons_append, List.cons_append, passes_pair, ih]
    simp [Sign.write]
  | case2 q rest _ hquote ih =>
    rw [hbackslash, Escape.write_cons_of_isPlain (Sign.ne_sentinel_of_quote hquote)
      (Sign.isPlain_of_quote hquote), List.cons_append, List.cons_append, passes_quote hquote, ih]
    simp [Sign.write]
  | case3 c rest hpair hquote ih =>
    have hlone : c ∉ ['\\', '"', '\''] := by
      rw [List.mem_cons, not_or]
      exact ⟨hpair, hquote⟩
    obtain ⟨d, tail, heq, hd⟩ := exists_write_eq_cons hlone sentinels rest
    have ih := ih sentinels pairs quotes
    rw [heq, List.cons_append] at ih
    rw [hbackslash, heq, List.cons_append, List.cons_append, passes_lone hd, ih]
    simp [Sign.write, Escape.character, sentinel]
  | case4 c rest hpair ih =>
    by_cases hc : c = '\\'
    · subst hc
      cases rest with
      | nil =>
        have hend : passes pairs quotes ('\\' :: lineEnd) = ⟨'\\' :: lineEnd, [], []⟩ := by
          have hlone : '<' ∉ ['\\', '"', '\''] := by decide
          rw [show lineEnd = '<' :: "br>".toList from rfl, passes_lone hlone,
            show '<' :: "br>".toList = lineEnd from rfl, passes_lineEnd]
        exact hend
      | cons d rest => exact absurd rfl (hpair d rest rfl)
    · rw [Escape.write, Sign.write]
      by_cases hsentinel : c = sentinel
      · rw [if_pos hsentinel, if_pos hsentinel, List.append_assoc,
          passes_append (backslash_notMem_write sentinels), ih]
        simp
      · have hwrite : '\\' ∉ Escape.character c := by
          intro hmem
          rcases Escape.mem_character hmem with heq | hmem
          · exact hc heq.symm
          · exact absurd hmem (by decide)
        rw [if_neg hsentinel, if_neg hsentinel, List.append_assoc, passes_append hwrite, ih]
        simp
  | case5 => exact passes_lineEnd

theorem classify_of_passes {draft : Draft}
    (h : passes draft.table.size (draft.table.size + pairs.length) draft.text =
      ⟨text, pairs, quotes⟩) :
    classify [.doubleBackslash, .escapedQuote] draft =
      { text
        table := draft.table.append ((pairs ++ quotes).map Match.markup)
        trace := pairs ++ quotes } := by
  have hpairs : (Rule.doubleBackslash.apply draft).trace = pairs := congrArg Passed.pairs h
  have hquotes : (Rule.escapedQuote.apply (Rule.doubleBackslash.apply draft).toDraft).trace =
      quotes := congrArg Passed.quotes h
  have htable : (Rule.doubleBackslash.apply draft).table =
      draft.table.append (pairs.map Match.markup) := by
    rw [← hpairs]
    rfl
  have htext :
      (Rule.escapedQuote.apply (Rule.doubleBackslash.apply draft).toDraft).text = text := by
    have hsize : (Rule.doubleBackslash.apply draft).table.size =
        draft.table.size + pairs.length := by
      rw [htable, Table.size_append, List.length_map]
    rw [Rule.apply_eq, hsize]
    exact congrArg Passed.text h
  have hstored : (Rule.escapedQuote.apply (Rule.doubleBackslash.apply draft).toDraft).table =
      draft.table.append ((pairs ++ quotes).map Match.markup) := by
    rw [List.map_append, ← Table.append_append, ← htable, ← hquotes]
    rfl
  have hdraft : (Rule.escapedQuote.apply (Rule.doubleBackslash.apply draft).toDraft).toDraft =
      { text, table := draft.table.append ((pairs ++ quotes).map Match.markup) } := by
    rw [← htext, ← hstored]
  simp only [classify, List.append_nil, hpairs, hquotes, hdraft]

namespace Sign

/-- Signs of a source as the passes leave them behind the entries of a table. -/
def writeIn (source : Text) (table : Table) (signs : List Sign) : Text :=
  write table.size (table.size + source.count sentinel)
    (table.size + source.count sentinel + (ofSource source).count .pair) signs

/-- A source behind the entries of a table, escaped and after the first two rules. -/
def afterEscapes (source : Text) (table : Table) : Classified :=
  classify (Rule.all.take 2) (escapeSource source table)

theorem afterEscapes_eq (source : Text) (table : Table) :
    afterEscapes source table =
      { text := writeIn source table (ofSource source) ++ lineEnd
        table := table.append (List.replicate (source.count sentinel) [sentinel] ++
          (pairMatches (ofSource source) ++ quoteMatches (ofSource source)).map Match.markup)
        trace := pairMatches (ofSource source) ++ quoteMatches (ofSource source) } := by
  rw [afterEscapes, escapeSource_eq, Escape.numberSentinels_plain,
    Escape.count_sentinel_plain_lineEnd, ← Table.append_append]
  refine classify_of_passes ?_
  rw [Table.size_append, List.length_replicate, passes_write]
  simp [writeIn, ofSource, pairMatches]

-- ---------------------------------------------------------------------------
-- Quotes
-- ---------------------------------------------------------------------------

/-- The character behind `front` stands in the working text as it is. -/
def Visible (source : Text) (table : Table) (front : Text) (c : Char) : Prop :=
  ∃ left right behind, ofSource source = left ++ .char c :: right ∧
    left.flatMap spell = Text.joinLineEnds front ∧
    (afterEscapes source table).text = writeIn source table left ++ c :: behind

theorem exists_write_eq {c : Char} (hc : c ≠ sentinel) (hplain : Escape.IsPlain c)
    (sentinels pairs quotes : Nat) (left right : List Sign) :
    ∃ behind, write sentinels pairs quotes (left ++ .char c :: right) =
      write sentinels pairs quotes left ++ c :: behind := by
  induction left generalizing sentinels pairs quotes with
  | nil =>
    exact ⟨write sentinels pairs quotes right, by
      simp [write, hc, Escape.character_of_isPlain hplain]⟩
  | cons sign left ih =>
    cases sign with
    | pair =>
      obtain ⟨behind, heq⟩ := ih sentinels (pairs + 1) quotes
      exact ⟨behind, by rw [List.cons_append, write, write, heq, List.append_assoc]⟩
    | quote q =>
      obtain ⟨behind, heq⟩ := ih sentinels pairs (quotes + 1)
      exact ⟨behind, by rw [List.cons_append, write, write, heq, List.append_assoc]⟩
    | char d =>
      rw [List.cons_append, write, write]
      by_cases hd : d = sentinel
      · obtain ⟨behind, heq⟩ := ih (sentinels + 1) pairs quotes
        exact ⟨behind, by rw [if_pos hd, if_pos hd, heq, List.append_assoc]⟩
      · obtain ⟨behind, heq⟩ := ih sentinels pairs quotes
        exact ⟨behind, by rw [if_neg hd, if_neg hd, heq, List.append_assoc]⟩

theorem visible_of_eq {source front : Text} {q : Char} (hq : q ∈ ['"', '\''])
    (h : ofSource source = left ++ .char q :: right)
    (hleft : left.flatMap spell = Text.joinLineEnds front) (table : Table) :
    Visible source table front q := by
  obtain ⟨behind, hwrite⟩ := exists_write_eq (ne_sentinel_of_quote hq) (isPlain_of_quote hq)
    table.size (table.size + source.count sentinel)
    (table.size + source.count sentinel + (ofSource source).count .pair) left right
  refine ⟨left, right, behind ++ lineEnd, h, hleft, ?_⟩
  have htext : writeIn source table (ofSource source) =
      writeIn source table left ++ q :: behind := by
    rw [writeIn, writeIn, ← hwrite, ← h]
  rw [afterEscapes_eq, htext, List.append_assoc, List.cons_append]

/-- A quote that is read with the backslash before it is not visible. -/
theorem not_visible_of_eq {source front : Text} {table : Table} {q : Char}
    (h : ofSource source = left ++ .quote q :: right)
    (hleft : left.flatMap spell ++ ['\\'] = Text.joinLineEnds front) :
    ¬Visible source table front q := by
  rintro ⟨left', right', -, heq, hleft', -⟩
  have hspell : left'.flatMap spell = left.flatMap spell ++ ['\\'] := hleft'.trans hleft.symm
  rcases List.append_eq_append_iff.mp (h.symm.trans heq) with
    ⟨more, rfl, hmore⟩ | ⟨more, rfl, hmore⟩
  · rw [List.flatMap_append, List.append_right_inj] at hspell
    cases more with
    | nil => cases hspell
    | cons sign more =>
      obtain ⟨rfl, -⟩ := List.cons.inj hmore
      cases hspell
  · have hlength := congrArg List.length hspell
    simp only [List.flatMap_append, List.length_append, List.length_singleton] at hlength
    omega

/-- The passes for escapes put tokens for the pairs of backslashes and for the escaped quotes of a
source, each kind numbered in order, and store and report just these. A whole run of backslashes
falls into pairs, and if one is left over, it takes a quote behind it with it or stays. So a quote
stays visible just if an even number of backslashes stands before it. -/
theorem escapes_by_parity (source : Text) (table : Table) :
    afterEscapes source table =
        { text := writeIn source table (ofSource source) ++ lineEnd
          table := table.append (List.replicate (source.count sentinel) [sentinel] ++
            (pairMatches (ofSource source) ++ quoteMatches (ofSource source)).map Match.markup)
          trace := pairMatches (ofSource source) ++ quoteMatches (ofSource source) } ∧
      (∀ front k back, source = front ++ (List.replicate k '\\' ++ back) → 0 < k →
        front.getLast? ≠ some '\\' → back.head? ≠ some '\\' →
        ofSource source = ofSource front ++ run k back) ∧
      ∀ front k q back, source = front ++ (List.replicate k '\\' ++ q :: back) →
        q ∈ ['"', '\''] → front.getLast? ≠ some '\\' →
        (Visible source table (front ++ List.replicate k '\\') q ↔ k % 2 = 0) := by
  refine ⟨afterEscapes_eq source table, ?_, ?_⟩
  · rintro front k back rfl hk hfront hback
    exact ofSource_append_run hfront hback (.inl hk)
  · rintro front k q back rfl hq hfront
    have hends : ∀ q ∈ ['"', '\''], q ≠ '\n' ∧ q ≠ '\r' := by decide
    obtain ⟨hfeed, hreturn⟩ := hends q hq
    have hbackslash := ne_backslash_of_quote hq
    have hrun : ofSource (front ++ (List.replicate k '\\' ++ q :: back)) =
        ofSource front ++ run k (q :: back) :=
      ofSource_append_run hfront (by simpa) (.inr (by simpa))
    have hspell := flatMap_spell_run front k
    constructor
    · intro hvisible
      by_contra hodd
      rw [run, if_neg hodd, lone, if_pos hq, ← List.append_assoc (ofSource front)] at hrun
      rw [show k % 2 = 1 by omega] at hspell
      exact not_visible_of_eq hrun hspell hvisible
    · intro heven
      rw [run, if_pos heven, ofSource_cons hreturn hbackslash,
        ← List.append_assoc (ofSource front)] at hrun
      rw [heven, List.replicate_zero, List.append_nil] at hspell
      exact visible_of_eq hq hrun hspell table

/-- Three backslashes before a quote, two before another one and one before the end. -/
def quotesBehindRuns : Text :=
  "$\\\\\\'\\\\\"x\\".toList

theorem escapes_by_parity_three_two :
    (afterEscapes quotesBehindRuns ⟨#[['a']]⟩).text = "$1;$2;$4;$3;\"x\\<br>".toList ∧
      ofSource quotesBehindRuns = ofSource "$".toList ++ run 3 "'\\\\\"x\\".toList ∧
      run 3 "'\\\\\"x\\".toList =
        [.pair, .quote '\'', .pair, .char '"', .char 'x', .char '\\'] ∧
      ¬Visible quotesBehindRuns ⟨#[['a']]⟩ "$\\\\\\".toList '\'' ∧
      Visible quotesBehindRuns ⟨#[['a']]⟩ "$\\\\\\'\\\\".toList '"' := by
  obtain ⟨htext, hrun, hvisible⟩ := escapes_by_parity quotesBehindRuns ⟨#[['a']]⟩
  refine ⟨?_, ?_, by decide, ?_, ?_⟩
  · rw [htext]
    decide +kernel
  · exact hrun "$".toList 3 "'\\\\\"x\\".toList rfl (by decide) (by decide) (by decide)
  · intro hquote
    have hparity := hvisible "$".toList 3 '\'' "\\\\\"x\\".toList rfl (by decide) (by decide)
    exact absurd (hparity.mp hquote) (by decide)
  · exact (hvisible "$\\\\\\'".toList 2 '"' "x\\".toList rfl (by decide) (by decide)).mpr rfl

end Sign

end LuaMarkup
