import LuaMarkup.Html.Node
import LuaMarkup.Html.Reference
import LuaMarkup.Text.Blank

/-!
The tokens of markup and their scanner. `Token.next?` takes one token from the start of a text;
what the text there may hold depends on the element that is being read.
-/

namespace LuaMarkup.Html

structure Doctype where
  name : String
  publicId : Option String
  systemId : Option String
  /-- The declaration is broken off or not well formed. -/
  broken : Bool
deriving DecidableEq, Repr

inductive Token where
  | doctype (declaration : Doctype)
  | startTag (name : String) (attributes : List Attribute) (selfClosing : Bool)
  | endTag (name : String)
  | comment (content : Text)
  /-- An instruction to whoever processes the page, with the name of what it is for. -/
  | instruction (target content : Text)
  | textRun (content : Text)
  /-- The page has ended. -/
  | pageEnd
deriving Repr

/-- How text is read up to the next token. -/
inductive TextMode where
  /-- Markup and references; `sections` says whether character data sections are read. -/
  | markup (sections : Bool)
  /-- References, and no markup but the end tag of the element named. -/
  | escapable (name : String)
  /-- No references, and no markup but the end tag of the element named. -/
  | raw (name : String)
  /-- As raw text, with the comments of scripts, in which a script may stand. -/
  | script
  /-- No markup any more. -/
  | plain
deriving DecidableEq, Repr

namespace Token

def isTagEnd (c : Char) : Bool :=
  Text.isMarkupSpace c || c == '/' || c == '>'

def lowerName (name : Text) : String :=
  String.ofList (Text.lowerAscii name)

/-- The rest of a text after a word, in any ASCII case. -/
def afterWord? (word text : Text) : Option Text :=
  if Text.lowerAscii (text.take word.length) = word then some (text.drop word.length) else none

/-! Tags -/

/-- The value of an attribute after its `=`, in quotes or up to a blank or the end of the tag. -/
def attributeValue? (text : Text) : Option (Option Text × Text) :=
  match text.dropWhile Text.isMarkupSpace with
  | [] => none
  | c :: rest =>
    if c = '"' ∨ c = '\'' then
      match rest.dropWhile (· ≠ c) with
      | [] => none
      | _ :: after => some (some (Reference.decode true (rest.takeWhile (· ≠ c))), after)
    else if c = '>' then some (none, c :: rest)
    else
      let isPart := fun d => !Text.isMarkupSpace d && d ≠ '>'
      some (some (Reference.decode true ((c :: rest).takeWhile isPart)),
        (c :: rest).dropWhile isPart)

theorem length_dropWhile_le (p : Char → Bool) (text : Text) :
    (text.dropWhile p).length ≤ text.length :=
  (List.dropWhile_sublist p).length_le

theorem length_of_attributeValue? {text : Text} {value : Option Text} {rest : Text}
    (h : attributeValue? text = some (value, rest)) : rest.length ≤ text.length := by
  have hd := length_dropWhile_le Text.isMarkupSpace text
  unfold attributeValue? at h
  split at h
  · simp at h
  · rename_i c tail ht
    rw [ht] at hd
    split at h
    · split at h
      · simp at h
      · rename_i after hq
        have hr := length_dropWhile_le (· ≠ c) tail
        rw [hq] at hr
        simp only [Option.some.injEq, Prod.mk.injEq] at h
        simp only [List.length_cons] at hd hr
        rw [← h.2]
        omega
    · split at h
      · simp only [Option.some.injEq, Prod.mk.injEq] at h
        rw [← h.2]
        exact hd
      · simp only [Option.some.injEq, Prod.mk.injEq] at h
        rw [← h.2]
        exact Nat.le_trans (length_dropWhile_le _ _) hd

/-- The attributes of a tag from the end of its name through its `>`, in reverse, with what
follows. Of several attributes of one name the first counts. Gives nothing if the tag is not
closed. -/
def attributes? (done : List Attribute) (text : Text) : Option (List Attribute × Bool × Text) :=
  match hd : text.dropWhile Text.isMarkupSpace with
  | [] => none
  | c :: tail =>
    have hc : tail.length < text.length := by
      have := length_dropWhile_le Text.isMarkupSpace text
      rw [hd] at this
      exact this
    if c = '>' then some (done, false, tail)
    else if c = '/' then
      if tail.head? = some '>' then some (done, true, tail.drop 1) else attributes? done tail
    else
      let isPart := fun d => !isTagEnd d && d ≠ '='
      let name := lowerName (c :: tail.takeWhile isPart)
      let add (value : Option Text) : List Attribute :=
        if done.any (·.name == name) then done else ⟨name, value⟩ :: done
      have hn := Nat.le_trans
        (length_dropWhile_le Text.isMarkupSpace (tail.dropWhile isPart))
        (length_dropWhile_le isPart tail)
      match hv : (tail.dropWhile isPart).dropWhile Text.isMarkupSpace with
      | '=' :: value =>
        match ha : attributeValue? value with
        | some (value, rest) =>
          have hr : rest.length < text.length := by
            have := length_of_attributeValue? ha
            rw [hv, List.length_cons] at hn
            omega
          attributes? (add value) rest
        | none => none
      | after =>
        have hr : after.length < text.length := by
          rw [hv] at hn
          omega
        attributes? (add none) after
termination_by text.length

/-- A tag from its name on: the name, the attributes in order, whether it closes itself, and
what follows. -/
def tag? (text : Text) : Option (String × List Attribute × Bool × Text) := do
  let isPart := fun c => !isTagEnd c
  let (attributes, selfClosing, rest) ← attributes? [] (text.dropWhile isPart)
  return (lowerName (text.takeWhile isPart), attributes.reverse, selfClosing, rest)

/-- A start or end tag. One that is not closed takes the rest of the text and gives nothing. -/
def scanTag (isEnd : Bool) (text : Text) : Token × Text :=
  match tag? text with
  | some (name, attributes, selfClosing, rest) =>
    (if isEnd then .endTag name else .startTag name attributes selfClosing, rest)
  | none => (.textRun [], [])

/-! Comments and declarations -/

/-- The content of a comment that the text ends in. -/
def unclosedComment (content : Text) : Text :=
  let cut := Text.dropEnd "--!".toList content
  let cut := if cut.length < content.length then cut else Text.dropEnd "--".toList content
  if cut.length < content.length then cut else Text.dropEnd ['-'] content

/-- The content of a comment up to its end mark, reversed in `done`, with what follows. -/
def commentBody (done : Text) : Text → Text × Text
  | [] => (unclosedComment done.reverse, [])
  | '-' :: '-' :: '>' :: rest => (done.reverse, rest)
  | '-' :: '-' :: '!' :: '>' :: rest => (done.reverse, rest)
  | c :: rest => commentBody (c :: done) rest

/-- A comment after its opening mark. -/
def scanComment : Text → Text × Text
  | '>' :: rest => ([], rest)
  | '-' :: '>' :: rest => ([], rest)
  | text => commentBody [] text

/-- Up to the next `>`, with what follows it. -/
def scanToEnd (text : Text) : Text × Text :=
  (text.takeWhile (· ≠ '>'), (text.dropWhile (· ≠ '>')).drop 1)

/-- Targets of instructions that belong to other kinds of pages. -/
def reservedTargets : List String := ["xml", "xml-stylesheet"]

def isTargetPart (c : Char) : Bool := c.isAlphanum || c == '-' || c == '_'

/-- An instruction after its question mark. What is not well formed is a comment, and a question
mark at the end belongs to the closing mark. -/
def scanInstruction (text : Text) : Token × Text :=
  let (body, rest) := scanToEnd text
  let target := body.takeWhile isTargetPart
  let after := body.drop target.length
  let content := after.dropWhile Text.isMarkupSpace
  let isOne :=
    (target.head?.map (·.isAlpha)).getD false && !reservedTargets.contains (lowerName target) &&
      (content.length < after.length || after.isEmpty || after.head? == some '?')
  (if isOne then .instruction target (Text.dropEnd ['?'] content) else .comment ('?' :: body),
    rest)

/-- A quoted identifier with what follows; `none` as identifier if it is not closed. -/
def identifier? (text : Text) : Option (Option String × Text) :=
  match text.dropWhile Text.isMarkupSpace with
  | [] => none
  | c :: rest =>
    if c = '"' ∨ c = '\'' then
      match rest.dropWhile (· ≠ c) with
      | [] => some (none, [])
      | _ :: after => some (some (String.ofList (rest.takeWhile (· ≠ c))), after)
    else none

def systemIdentifier (declaration : Doctype) (text : Text) : Doctype :=
  match identifier? text with
  | some (some systemId, _) => { declaration with systemId := some systemId }
  | some (none, _) => { declaration with broken := true }
  | none =>
    if (text.dropWhile Text.isMarkupSpace).isEmpty then declaration
    else { declaration with broken := true }

/-- The identifiers of a document type after its name. -/
def identifiers (declaration : Doctype) (text : Text) : Doctype :=
  let text := text.dropWhile Text.isMarkupSpace
  if text.isEmpty then declaration
  else
    match afterWord? "public".toList text with
    | some rest =>
      match identifier? rest with
      | some (some publicId, rest) =>
        systemIdentifier { declaration with publicId := some publicId } rest
      | _ => { declaration with broken := true }
    | none =>
      match afterWord? "system".toList text with
      | some rest =>
        match identifier? rest with
        | some (some systemId, _) => { declaration with systemId := some systemId }
        | _ => { declaration with broken := true }
      | none => { declaration with broken := true }

/-- A document type after its keyword. -/
def scanDoctype (text : Text) : Token × Text :=
  let (body, rest) := scanToEnd text
  let body := body.dropWhile Text.isMarkupSpace
  let name := body.takeWhile (!Text.isMarkupSpace ·)
  let declaration : Doctype :=
    { name := lowerName name, publicId := none, systemId := none, broken := name.isEmpty }
  (.doctype (identifiers declaration (body.drop name.length)), rest)

/-- A character data section after its opening mark. -/
def sectionBody (done : Text) : Text → Text × Text
  | [] => (done.reverse, [])
  | ']' :: ']' :: '>' :: rest => (done.reverse, rest)
  | c :: rest => sectionBody (c :: done) rest

/-- A declaration after `<!`. What is not known is a comment. -/
def scanDeclaration (sections : Bool) (text : Text) : Token × Text :=
  match Text.after? "--".toList text with
  | some rest =>
    let (content, rest) := scanComment rest
    (.comment content, rest)
  | none =>
    match afterWord? "doctype".toList text with
    | some rest => scanDoctype rest
    | none =>
      match if sections then Text.after? "[CDATA[".toList text else none with
      | some rest =>
        let (content, rest) := sectionBody [] rest
        (.textRun content, rest)
      | none =>
        let (content, rest) := scanToEnd text
        (.comment content, rest)

/-! Text -/

/-- Whether a `<` before this text opens markup. -/
def opensMarkup : Text → Bool
  | [] => false
  | c :: rest => c.isAlpha || c == '!' || c == '?' || (c == '/' && !rest.isEmpty)

/-- The text before the next markup, and the rest. -/
def cutAtMarkup : Text → Text × Text
  | [] => ([], [])
  | c :: rest =>
    if c = '<' ∧ opensMarkup rest then ([], c :: rest)
    else
      let (before, after) := cutAtMarkup rest
      (c :: before, after)

/-- Whether a text starts with an end tag of that name. -/
def closes (name : Text) (text : Text) : Bool :=
  match Text.after? "</".toList text with
  | some rest =>
    match afterWord? name rest with
    | some (c :: _) => isTagEnd c
    | _ => false
  | none => false

/-- The text before the next end tag of that name, and the rest. -/
def cutAtEndTag (name : Text) : Text → Text × Text
  | [] => ([], [])
  | c :: rest =>
    if closes name (c :: rest) then ([], c :: rest)
    else
      let (before, after) := cutAtEndTag name rest
      (c :: before, after)

/-- How deep a place in a script is in comments and scripts. -/
inductive ScriptDepth where
  | outside
  | inComment
  | inNested
deriving DecidableEq

def opensScript (text : Text) : Bool :=
  match Text.after? ['<'] text with
  | some rest =>
    match afterWord? "script".toList rest with
    | some (c :: _) => isTagEnd c
    | _ => false
  | none => false

/-- The depth after the first character of a text. -/
def ScriptDepth.step (depth : ScriptDepth) (text : Text) : ScriptDepth :=
  match depth with
  | .outside => if (Text.after? "<!--".toList text).isSome then .inComment else .outside
  | .inComment =>
    if (Text.after? "-->".toList text).isSome then .outside
    else if opensScript text then .inNested
    else .inComment
  | .inNested =>
    if (Text.after? "-->".toList text).isSome then .outside
    else if closes "script".toList text then .inComment
    else .inNested

/-- The text before the end tag of a script, and the rest. -/
def cutAtScriptEnd (depth : ScriptDepth) : Text → Text × Text
  | [] => ([], [])
  | c :: rest =>
    if depth ≠ .inNested ∧ closes "script".toList (c :: rest) then ([], c :: rest)
    else
      let (before, after) := cutAtScriptEnd (depth.step (c :: rest)) rest
      (c :: before, after)

/-- The token at a `<`, from what follows it. -/
def scanMarkup (sections : Bool) : Text → Token × Text
  | '/' :: '>' :: rest => (.textRun [], rest)
  | '/' :: c :: rest =>
    if c.isAlpha then scanTag true (c :: rest)
    else
      let (content, rest) := scanToEnd (c :: rest)
      (.comment content, rest)
  | '!' :: rest => scanDeclaration sections rest
  | '?' :: rest => scanInstruction rest
  | text => scanTag false text

/-- A character of code zero gives way to the one that stands for what is no character. -/
def replaceZero (text : Text) : Text := Text.replaceChar '\x00' ['\ufffd'] text

/-- The text before an end tag, or the end tag if there is none before it. -/
def textOrEndTag (cut : Text × Text) (decode : Text → Text) : Token × Text :=
  match cut with
  | ([], '<' :: '/' :: rest) => scanTag true rest
  | (before, rest) => (.textRun (decode before), rest)

/-- The first token of a text, and the rest. A text without content stands for nothing. -/
def next? (mode : TextMode) (text : Text) : Option (Token × Text) :=
  match text with
  | [] => none
  | _ =>
    some <|
      match mode with
      | .markup sections =>
        match cutAtMarkup text with
        | ([], '<' :: rest) => scanMarkup sections rest
        | (before, rest) => (.textRun (Reference.decode false before), rest)
      | .escapable name =>
        textOrEndTag (cutAtEndTag name.toList text)
          (Reference.decode false ∘ replaceZero)
      | .raw name => textOrEndTag (cutAtEndTag name.toList text) replaceZero
      | .script => textOrEndTag (cutAtScriptEnd .outside text) replaceZero
      | .plain => (.textRun (replaceZero text), [])

end Token
end LuaMarkup.Html
