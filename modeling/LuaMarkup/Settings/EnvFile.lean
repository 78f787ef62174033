import LuaMarkup.Text.Blank

/-!
Files of variables. A statement is a name, and after a `=` a value that may stand in quotes;
comments start with a `#`. A value may refer to variables, those of the file included that come
before it.
-/

namespace LuaMarkup

/-- A variable that is named without a `=` has no value. -/
structure Variable where
  name : Text
  value : Option Text
deriving DecidableEq, Repr

namespace EnvFile

/-- Blanks within a line. -/
def isInlineBlank (c : Char) : Bool :=
  Text.isBlank c && c != '\n' && c != '\r'

def skipBlanks (text : Text) : Text := text.dropWhile isInlineBlank

def isLineEnd (c : Char) : Bool := c == '\n' || c == '\r'

/-- A line break and the line before it dropped. -/
def skipLine (text : Text) : Text :=
  match text.dropWhile (!isLineEnd ·) with
  | _ :: rest => rest
  | [] => []

/-- `export` before a name, with the blanks after it. -/
def skipExport (text : Text) : Text :=
  match Text.after? "export".toList text with
  | some rest => if (rest.head?.any isInlineBlank) then skipBlanks rest else text
  | none => text

/-! A reader gives what it read and the rest, or the place where it failed. -/

abbrev Read (α : Type) : Type := Except Text (α × Text)

/-- A name, in single quotes or up to a `=`, a `#` or a blank. There is none before a comment. -/
def readName (text : Text) : Read (Option Text) :=
  match text with
  | '#' :: _ => .ok (none, text)
  | '\'' :: rest =>
    let name := rest.takeWhile (· != '\'')
    match rest.drop name.length with
    | _ :: after => if name.isEmpty then .error text else .ok (some name, after)
    | [] => .error text
  | _ =>
    let stops (c : Char) := c == '=' || c == '#' || Text.isBlank c
    let name := text.takeWhile (!stops ·)
    if name.isEmpty then .error text else .ok (some name, text.drop name.length)

/-- The text up to a quote, and what follows the quote. A backslash takes the character after it
along, which may be the quote and may not be a line feed. -/
def quotedPart? (quote : Char) : Text → Option (Text × Text)
  | [] => none
  | '\\' :: c :: rest =>
    if c = '\n' then none
    else (quotedPart? quote rest).map fun (s, rest) => ('\\' :: c :: s, rest)
  | c :: rest =>
    if c = quote then some ([], rest)
    else if c = '\\' then none
    else (quotedPart? quote rest).map fun (s, rest) => (c :: s, rest)

def singleQuoteEscape? (c : Char) : Option Char :=
  if c = '\\' ∨ c = '\'' then some c else none

def doubleQuoteEscape? (c : Char) : Option Char :=
  match c with
  | '\\' | '\'' | '"' => some c
  | 'a' => some '\x07'
  | 'b' => some '\x08'
  | 'f' => some '\x0c'
  | 'n' => some '\n'
  | 'r' => some '\r'
  | 't' => some '\t'
  | 'v' => some '\x0b'
  | _ => none

/-- A backslash and the character after it give way to what they stand for, if anything. -/
def unescape (escape? : Char → Option Char) : Text → Text
  | '\\' :: c :: rest =>
    match escape? c with
    | some d => d :: unescape escape? rest
    | none => '\\' :: unescape escape? (c :: rest)
  | c :: rest => c :: unescape escape? rest
  | [] => []

/-- A line up to the first run of blanks before a `#`. -/
def dropComment : Text → Text
  | [] => []
  | c :: rest =>
    if Text.isBlank c && ((c :: rest).dropWhile Text.isBlank).head? == some '#' then []
    else c :: dropComment rest

/-- The value after a `=`. -/
def readValue (text : Text) : Read Text :=
  match skipBlanks text with
  | '\'' :: rest =>
    match quotedPart? '\'' rest with
    | some (s, rest) => .ok (unescape singleQuoteEscape? s, rest)
    | none => .error ('\'' :: rest)
  | '"' :: rest =>
    match quotedPart? '"' rest with
    | some (s, rest) => .ok (unescape doubleQuoteEscape? s, rest)
    | none => .error ('"' :: rest)
  | _ =>
    let line := text.takeWhile (!isLineEnd ·)
    .ok (Text.trim (dropComment line), text.drop line.length)

/-- The end of a statement: perhaps a comment, and the end of the line. -/
def readEnd (text : Text) : Read Unit :=
  let afterComment :=
    match skipBlanks text with
    | '#' :: rest => rest.dropWhile (!isLineEnd ·)
    | _ => text
  match skipBlanks afterComment with
  | [] => .ok ((), [])
  | c :: rest => if isLineEnd c then .ok ((), rest) else .error afterComment

/-- A statement from its first character on. -/
def readStatement (text : Text) : Except Text (Option Variable × Text) := do
  let (name, rest) ← readName (skipExport text)
  let rest := skipBlanks rest
  let (value, rest) ←
    match rest with
    | '=' :: rest => (readValue rest).map fun (s, rest) => (some s, rest)
    | _ => pure (none, rest)
  let ((), rest) ← readEnd rest
  return (name.map fun name => { name, value }, rest)

inductive Statement where
  | empty
  | variable (value : Variable)
  /-- A line that is no statement. -/
  | invalid (line : Nat)
deriving DecidableEq, Repr

/-- The statements of a text that starts on a line. A statement that fails is left out up to
the end of the line where it fails, and counts from the line where the one before it ended. -/
def statements (line : Nat) (text : Text) : List Statement :=
  match text.dropWhile Text.isBlank with
  | [] => []
  | start =>
    let (statement, rest) : Statement × Text :=
      match readStatement start with
      | .ok (some v, rest) => (.variable v, rest)
      | .ok (none, rest) => (.empty, rest)
      | .error rest => (.invalid line, skipLine rest)
    if rest.length < text.length then
      statement :: statements (line + (text.count '\n' - rest.count '\n')) rest
    else [statement]
termination_by text.length

/-! Variables in values -/

/-- The reference `${name}` or `${name:-default}` after its `${`, and what follows it. -/
def reference? (text : Text) : Option (Text × Text × Text) :=
  let name := text.takeWhile fun c => c != '\x7d' && c != ':'
  match text.drop name.length with
  | '\x7d' :: rest => some (name, [], rest)
  | ':' :: '-' :: rest =>
    let default := rest.takeWhile (· != '\x7d')
    match rest.drop default.length with
    | _ :: rest => some (name, default, rest)
    | [] => none
  | _ => none

/-- The value of a variable. The last of two variables of a name counts. -/
def lookup? (vars : List Variable) (name : Text) : Option (Option Text) :=
  (vars.reverse.find? (·.name == name)).map (·.value)

/-- A value with its references replaced. A variable without value is empty, and the default
of a reference is for a variable that is not there. -/
def expand (vars : List Variable) : (fuel : Nat) → Text → Text
  | fuel + 1, '$' :: '\x7b' :: rest =>
    match reference? rest with
    | some (name, default, rest) =>
      ((lookup? vars name).getD (some default)).getD [] ++ expand vars fuel rest
    | none => '$' :: expand vars fuel ('\x7b' :: rest)
  | fuel + 1, c :: rest => c :: expand vars fuel rest
  | _, text => text

/-- Variables with one more. A variable of the same name gives up its value, not its place. -/
def put (vars : List Variable) (v : Variable) : List Variable :=
  if vars.any (·.name == v.name) then
    vars.map fun w => if w.name = v.name then v else w
  else vars ++ [v]

/-- The variables of a file, those of the surroundings being known to it. -/
def expandAll (surroundings : List Variable) (vars : List Variable) : List Variable :=
  vars.foldl (fun done v =>
    put done { v with value := v.value.map fun s => expand (surroundings ++ done) s.length s })
    []

structure Content where
  vars : List Variable
  /-- The lines where something starts that is no statement. -/
  invalidLines : List Nat
deriving DecidableEq, Repr

/-- A text without the mark of its byte order. -/
def dropOrderMark (text : Text) : Text := (Text.after? ['\ufeff'] text).getD text

def read (surroundings : List Variable) (text : Text) : Content :=
  let statements := statements 1 (dropOrderMark text)
  { vars := expandAll surroundings (statements.filterMap fun
      | .variable v => some v
      | _ => none)
    invalidLines := statements.filterMap fun
      | .invalid line => some line
      | _ => none }

end EnvFile
end LuaMarkup
