import LuaMarkup.Console.Width
import LuaMarkup.Text.Printable
import LuaMarkup.Text.Quoted
import LuaMarkup.Text.Word

/-!
The words, numbers, quoted texts and marks of which expressions consist, and what is wrong with a
text that does not consist of them. That brackets match belongs to it.
-/

namespace LuaMarkup.Console

inductive Lexeme where
  | name (text : Text)
  | number (imaginary : Bool)
  /-- A text in quotes. One that is formatted is made when it is looked at. -/
  | quoted (formatted : Bool)
  | mark (text : Text)
  /-- A backslash that does not end its line. Nothing is read after it. -/
  | strayBackslash
deriving DecidableEq, Repr

def Lexeme.isQuoted : Lexeme → Bool
  | .quoted _ => true
  | _ => false

inductive Radix where
  | decimal
  | hexadecimal
  | octal
  | binary
  | imaginary
deriving DecidableEq, Repr

def Radix.name : Radix → String
  | .decimal => "decimal"
  | .hexadecimal => "hexadecimal"
  | .octal => "octal"
  | .binary => "binary"
  | .imaginary => "imaginary"

inductive LexicalFault where
  | numeral (radix : Radix)
  | digit (c : Char) (radix : Radix)
  | leadingZeros
  | openQuote (triple : Bool) (line : Nat)
  | unmatched (closing : Char)
  /-- The line of the opening bracket is given if it is another one. -/
  | mismatched (closing opening : Char) (line : Option Nat)
  | character (c : Char)
deriving DecidableEq, Repr

/-- The number of a character in hexadecimal with capital letters, in four digits or more. -/
def codePointName (c : Char) : Text :=
  "U+".toList ++ (Text.hex 4 c.toNat).map Char.toUpper

def LexicalFault.message : LexicalFault → Text
  | .numeral radix => s!"invalid {radix.name} literal".toList
  | .digit c radix => s!"invalid digit '{c}' in {radix.name} literal".toList
  | .leadingZeros =>
    ("leading zeros in decimal integer literals are not permitted; " ++
      "use an 0o prefix for octal integers").toList
  | .openQuote triple line =>
    let kind := if triple then "triple-quoted string" else "string"
    s!"unterminated {kind} literal (detected at line {line})".toList
  | .unmatched closing => s!"unmatched '{closing}'".toList
  | .mismatched closing opening line =>
    s!"closing parenthesis '{closing}' does not match opening parenthesis '{opening}'".toList ++
      match line with
      | some line => s!" on line {line}".toList
      | none => []
  | .character c =>
    if Text.isPrintable c then
      s!"invalid character '{c}' (".toList ++ codePointName c ++ [')']
    else "invalid non-printable character ".toList ++ codePointName c

namespace Lexeme

/-! Numbers -/

/-- What follows the digits that a text starts with. Single underscores may stand before digits;
after one that does not, the rest is given as an error. -/
def afterDigits (isDigit : Char → Bool) : Text → Except Text Text
  | '_' :: c :: rest =>
    if isDigit c then afterDigits isDigit rest else .error (c :: rest)
  | ['_'] => .error []
  | c :: rest => if isDigit c then afterDigits isDigit rest else .ok (c :: rest)
  | [] => .ok []

/-- Words that may follow a number without a blank. -/
def joiningWords : List String := ["and", "else", "for", "if", "in", "is", "not", "or"]

def isAsciiNameChar (c : Char) : Bool := c.isAlphanum || c == '_'

/-- A number is not followed by a letter or a digit, a joining word apart. -/
def checkEnd (radix : Radix) (rest : Text) : Except LexicalFault Text :=
  if joiningWords.any (fun word => word.toList.isPrefixOf rest) ∨
      !(rest.head?.any isAsciiNameChar) then .ok rest
  else .error (.numeral radix)

/-- What follows a number of a radix after its mark. -/
def afterRadix (radix : Radix) (isDigit : Char → Bool) (text : Text) :
    Except LexicalFault Text := do
  let fault (rest : Text) : LexicalFault :=
    match rest with
    | c :: _ =>
      if radix ≠ .hexadecimal ∧ c.isDigit then .digit c radix else .numeral radix
    | [] => .numeral radix
  let start := if text.head? = some '_' then text.drop 1 else text
  if !(start.head?.any isDigit) then throw (fault start)
  let rest ← (afterDigits isDigit text).mapError fault
  if rest.head?.any Char.isDigit then throw (fault rest)
  checkEnd radix rest

def isHexDigit (c : Char) : Bool :=
  c.isDigit || ('a' ≤ c.toLower && c.toLower ≤ 'f')

/-- What follows an exponent or the mark of an imaginary number, if the number has one. A whole
number in decimal digits has no zeros before them. -/
def afterExponent (zeros : Bool) (text : Text) : Except LexicalFault Text := do
  let digits (text : Text) : Except LexicalFault Text :=
    (afterDigits Char.isDigit text).mapError fun _ => .numeral .decimal
  let ending (zeros : Bool) (text : Text) : Except LexicalFault Text :=
    match text with
    | c :: rest =>
      if c.toLower = 'j' then checkEnd .imaginary rest
      else if zeros then .error .leadingZeros
      else checkEnd .decimal text
    | [] => if zeros then .error .leadingZeros else .ok []
  match text with
  | e :: rest =>
    if e.toLower ≠ 'e' then ending zeros text
    else
      match rest with
      | c :: tail =>
        if c.isDigit then ending false (← digits rest)
        else if c = '+' ∨ c = '-' then
          if tail.head?.any Char.isDigit then ending false (← digits tail)
          else throw (.numeral .decimal)
        else checkEnd .decimal text
      | [] => checkEnd .decimal text
  | [] => ending zeros []

/-- What follows the number that a text starts with. -/
def afterNumber (text : Text) : Except LexicalFault Text := do
  let digits (text : Text) : Except LexicalFault Text :=
    (afterDigits Char.isDigit text).mapError fun _ => .numeral .decimal
  let fraction (rest : Text) : Except LexicalFault Text := do
    afterExponent false (← if rest.head?.any Char.isDigit then digits rest else pure rest)
  match text with
  | '.' :: rest => fraction rest
  | c :: letter :: rest =>
    if c = '0' ∧ letter.toLower = 'x' then afterRadix .hexadecimal isHexDigit rest
    else if c = '0' ∧ letter.toLower = 'o' then
      afterRadix .octal (fun d => '0' ≤ d && d ≤ '7') rest
    else if c = '0' ∧ letter.toLower = 'b' then
      afterRadix .binary (fun d => d == '0' || d == '1') rest
    else
      let rest ← digits text
      match rest with
      | '.' :: rest => fraction rest
      | _ =>
        let whole := text.take (text.length - rest.length)
        afterExponent (c = '0' && whole.any fun d => '1' ≤ d && d ≤ '9') rest
  | _ => return []

/-! Quoted texts -/

/-- What follows a text in quotes, after the opening one. -/
def afterQuoted? (quote : Char) : Text → Option Text
  | [] => none
  | '\n' :: _ => none
  | '\\' :: _ :: rest => afterQuoted? quote rest
  | c :: rest => if c = quote then some rest else afterQuoted? quote rest

/-- What follows a text in triple quotes, after the opening ones. `closing` of the last three have
just been read. -/
def afterTriple? (quote : Char) : (closing : Nat) → Text → Option Text
  | _, [] => none
  | _, '\\' :: _ :: rest => afterTriple? quote 0 rest
  | closing, c :: rest =>
    if c = quote then if closing = 2 then some rest else afterTriple? quote (closing + 1) rest
    else afterTriple? quote 0 rest

/-- Letters that may stand before a quote. -/
def quoteMarks : List String := ["b", "u", "r", "f", "br", "rb", "fr", "rf"]

/-- What follows the quoted text that a text starts with, if it starts with one. -/
def afterQuote? (line : Nat) (text : Text) : Option (Except LexicalFault Text) :=
  let letters := text.takeWhile isAsciiNameChar
  if letters.isEmpty ∨ quoteMarks.contains (String.ofList (Text.lowerAscii letters)) then
    match text.drop letters.length with
    | quote :: rest =>
      if quote ≠ '"' ∧ quote ≠ '\'' then none
      else if [quote, quote].isPrefixOf rest then
        let lines := line + text.count '\n'
        some ((afterTriple? quote 0 (rest.drop 2)).elim (.error (.openQuote true lines)) .ok)
      else some ((afterQuoted? quote rest).elim (.error (.openQuote false line)) .ok)
    | [] => none
  else none

/-! Names and marks -/

def isNameChar (c : Char) : Bool := isAsciiNameChar c || 0x80 ≤ c.toNat

/-- The first character that keeps a run of characters from being a name. Names consist of
letters, numbers and characters that are added to the one before. -/
def strangeChar? (run : Text) : Option Char :=
  run.find? fun c =>
    !(Text.isWordChar c || (Text.isPrintable c && charWidth c == 0))

/-- Names that are no names of values. -/
def isKeyword (name : Text) : Bool :=
  ["False", "None", "True", "and", "as", "assert", "async", "await", "break", "class", "continue",
    "def", "del", "elif", "else", "except", "finally", "for", "from", "global", "if", "import",
    "in", "is", "lambda", "nonlocal", "not", "or", "pass", "raise", "return", "try", "while",
    "with", "yield"].contains (String.ofList name)

/-- The keywords that are values. -/
def isConstant (name : Text) : Bool :=
  ["False", "None", "True"].contains (String.ofList name)

def longMarks : List String :=
  ["**=", "//=", "<<=", ">>=", "...", "!=", "%=", "&=", "**", "*=", "+=", "-=", "->", "//", "/=",
    ":=", "<<", "<=", "<>", "==", ">=", ">>", "@=", "^=", "|="]

/-- The mark that a text starts with, the longest there is. -/
def markOf (text : Text) : Text :=
  match longMarks.find? fun spelling => spelling.toList.isPrefixOf text with
  | some spelling => spelling.toList
  | none => text.take 1

def isBracketPair (opening closing : Char) : Bool :=
  (opening == '(' && closing == ')') || (opening == '{' && closing == '}') ||
    (opening == '[' && closing == ']')

/-- Open brackets with their lines, innermost first. -/
abbrev Brackets := List (Char × Nat)

/-- The open brackets after a mark. -/
def track (line : Nat) (opened : Brackets) (spelling : Text) : Except LexicalFault Brackets :=
  match spelling with
  | [c] =>
    if c = '(' ∨ c = '[' ∨ c = '{' then .ok ((c, line) :: opened)
    else if c = ')' ∨ c = ']' ∨ c = '}' then
      match opened with
      | [] => .error (.unmatched c)
      | (opening, start) :: opened =>
        if isBracketPair opening c then .ok opened
        else .error (.mismatched c opening (if start = line then none else some start))
    else .ok opened
  | _ => .ok opened

/-- The lexemes of a text. The end of a line is a mark outside of brackets. -/
def scan : (fuel line : Nat) → Brackets → Text → Except LexicalFault (List Lexeme)
  | 0, _, _, _ => .ok []
  | _ + 1, _, _, [] => .ok []
  | fuel + 1, line, opened, c :: rest =>
    if c = ' ' ∨ c = '\t' ∨ c = '\x0c' then scan fuel line opened rest
    else if c = '#' then scan fuel line opened (rest.dropWhile (· ≠ '\n'))
    else if c = '\n' then
      let next := scan fuel (line + 1) opened rest
      if opened.isEmpty then next.map (.mark [c] :: ·) else next
    else if c = '\\' then
      match rest with
      | '\n' :: rest => scan fuel (line + 1) opened rest
      | _ => .ok [.strayBackslash]
    else
      match afterQuote? line (c :: rest) with
      | some after => do
        let after ← after
        let spelling := (c :: rest).take (rest.length + 1 - after.length)
        let letters := Text.lowerAscii (spelling.takeWhile isAsciiNameChar)
        let lines := line + spelling.count '\n'
        return .quoted (letters.contains 'f') :: (← scan fuel lines opened after)
      | none =>
        if c.isDigit ∨ (c = '.' ∧ rest.head?.any Char.isDigit) then do
          let after ← afterNumber (c :: rest)
          let last := ((c :: rest).take (rest.length + 1 - after.length)).getLast?
          return .number (last.map Char.toLower == some 'j') :: (← scan fuel line opened after)
        else if isNameChar c then
          let name := c :: rest.takeWhile isNameChar
          match strangeChar? name with
          | some c => .error (.character c)
          | none => do
            return .name name :: (← scan fuel line opened (rest.drop (name.length - 1)))
        else if !Text.isPrintable c then .error (.character c)
        else do
          let spelling := markOf (c :: rest)
          let opened ← track line opened spelling
          return .mark spelling :: (← scan fuel line opened (rest.drop (spelling.length - 1)))

def ofText (text : Text) : Except LexicalFault (List Lexeme) :=
  scan text.length 1 [] (Text.unifyLineEnds text)

end Lexeme
end LuaMarkup.Console
