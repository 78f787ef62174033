import LuaMarkup.Html.Reference
import LuaMarkup.Html.Token

/-!
The tokens of selectors, and the components that they make up.
-/

namespace LuaMarkup.Selector

inductive Token where
  | identifier (name : Text)
  /-- A name and the parenthesis that it opens. -/
  | function (name : Text)
  | hash (name : Text)
  | quoted (content : Text)
  /-- A whole number, or nothing for another one, and whether it has a sign. -/
  | number (value : Option Int) (signed : Bool)
  | dimension (value : Option Int) (signed : Bool) (unit : Text)
  | space
  | mark (c : Char)
  /-- A quoted text that its line ends. -/
  | broken
deriving DecidableEq, Repr

namespace Token

def isSpace (c : Char) : Bool := c == ' ' || c == '\t' || c == '\n'

/-- Characters beyond ASCII that names are made of. -/
def isLetterLike (c : Char) : Bool :=
  let n := c.toNat
  n == 0xb7 || (0xc0 ≤ n && n ≤ 0x1fff && n != 0xd7 && n != 0xf7 && n != 0x37e) ||
    n == 0x200c || n == 0x200d || n == 0x203f || n == 0x2040 || (0x2070 ≤ n && n ≤ 0x218f) ||
    (0x2c00 ≤ n && n ≤ 0x2fef) || (0x3001 ≤ n && n ≤ 0xd7ff) || (0xf900 ≤ n && n ≤ 0xfdcf) ||
    (0xfdf0 ≤ n && n ≤ 0xfffd) || 0x10000 ≤ n

def startsName (c : Char) : Bool := c.isAlpha || c == '_' || isLetterLike c

def inName (c : Char) : Bool := startsName c || c.isDigit || c == '-'

/-- Whether an escape starts a text. -/
def startsEscape : Text → Bool
  | '\\' :: '\n' :: _ => false
  | '\\' :: _ => true
  | _ => false

/-- The character of an escape after its backslash, and what follows. -/
def escape (text : Text) : Char × Text :=
  let digits := (text.takeWhile Html.Reference.isHexDigit).take 6
  if digits.isEmpty then
    match text with
    | c :: rest => (c, rest)
    | [] => (Html.Reference.replacement, [])
  else
    let n := digits.foldl (fun n c => 16 * n + Html.Reference.digitValue c) 0
    let rest := text.drop digits.length
    let c :=
      if n = 0 ∨ (0xd800 ≤ n ∧ n < 0xe000) ∨ 0x10ffff < n then Html.Reference.replacement
      else Char.ofNat n
    (c, match rest with | d :: tail => if isSpace d then tail else rest | [] => [])

/-- The characters of a name, as many as there are. -/
def name : (fuel : Nat) → Text → Text × Text
  | 0, text => ([], text)
  | _ + 1, [] => ([], [])
  | fuel + 1, c :: rest =>
    if inName c then
      let (more, rest) := name fuel rest
      (c :: more, rest)
    else if startsEscape (c :: rest) then
      let (d, rest) := escape rest
      let (more, rest) := name fuel rest
      (d :: more, rest)
    else ([], c :: rest)

/-- Whether an identifier starts a text. Two hyphens start one unless they end a comment of
markup. -/
def startsIdentifier (text : Text) : Bool :=
  match text with
  | '-' :: '-' :: '>' :: _ => false
  | '-' :: '-' :: _ => true
  | '-' :: c :: rest => startsName c || startsEscape (c :: rest)
  | c :: _ => startsName c || startsEscape text
  | [] => false

/-- A quoted text after its opening mark. The end of the text closes it. -/
def quoted? (mark : Char) : (fuel : Nat) → Text → Option (Text × Text)
  | 0, text => some ([], text)
  | _ + 1, [] => some ([], [])
  | fuel + 1, c :: rest =>
    if c = mark then some ([], rest)
    else if c = '\n' then none
    else if c = '\\' then
      match rest with
      | [] => some ([], [])
      | '\n' :: rest => quoted? mark fuel rest
      | _ =>
        let (d, rest) := escape rest
        (quoted? mark fuel rest).map fun (more, rest) => (d :: more, rest)
    else (quoted? mark fuel rest).map fun (more, rest) => (c :: more, rest)

/-- What follows a comment after its opening mark. The end of the text closes it. -/
def afterComment : Text → Text
  | [] => []
  | '*' :: '/' :: rest => rest
  | _ :: rest => afterComment rest

/-! Numbers -/

/-- A point and digits after it. -/
def fraction (text : Text) : Text × Text :=
  match text with
  | '.' :: rest =>
    let digits := rest.takeWhile Char.isDigit
    if digits.isEmpty then ([], text) else ('.' :: digits, rest.drop digits.length)
  | _ => ([], text)

/-- The letter of an exponent, its sign and its digits. -/
def exponent (text : Text) : Text × Text :=
  match text with
  | c :: rest =>
    let sign := rest.take 1 |>.filter fun d => d == '+' || d == '-'
    let digits := (rest.drop sign.length).takeWhile Char.isDigit
    if (c = 'e' ∨ c = 'E') ∧ !digits.isEmpty then
      (c :: sign ++ digits, rest.drop (sign.length + digits.length))
    else ([], text)
  | [] => ([], [])

/-- A number with or without a unit. -/
def number? (length : Nat) (text : Text) : Option (Token × Text) :=
  let sign := text.take 1 |>.filter fun c => c == '+' || c == '-'
  let digits := (text.drop sign.length).takeWhile Char.isDigit
  let (decimals, rest) := fraction (text.drop (sign.length + digits.length))
  if digits.isEmpty ∧ decimals.isEmpty then none
  else
    let (power, rest) := exponent rest
    let size : Int := digits.foldl (fun n c => 10 * n + Html.Reference.digitValue c) 0
    let value :=
      if decimals.isEmpty ∧ power.isEmpty then some (if sign = ['-'] then -size else size)
      else none
    if startsIdentifier rest then
      let (unit, rest) := name length rest
      some (.dimension value (!sign.isEmpty) unit, rest)
    else some (.number value (!sign.isEmpty), rest)

/-- The first token of a text after a character that starts neither a blank nor a comment. -/
def next (length : Nat) (c : Char) (rest : Text) : Token × Text :=
  if c = '"' ∨ c = '\'' then
    match quoted? c length rest with
    | some (content, rest) => (.quoted content, rest)
    | none => (.broken, (rest.dropWhile (· ≠ '\n')))
  else if startsIdentifier (c :: rest) then
    match name length (c :: rest) with
    | (name, '(' :: rest) => (.function name, rest)
    | (name, rest) => (.identifier name, rest)
  else
    match number? length (c :: rest) with
    | some result => result
    | none =>
      if c = '#' ∧ ((rest.head?.map inName).getD false ∨ startsEscape rest) then
        let (name, rest) := name length rest
        (.hash name, rest)
      else (.mark c, rest)

/-- The tokens of a text, comments left out. -/
def scan : (fuel : Nat) → Text → List Token
  | 0, _ => []
  | _ + 1, [] => []
  | fuel + 1, '/' :: '*' :: rest => scan fuel (afterComment rest)
  | fuel + 1, c :: rest =>
    if isSpace c then .space :: scan fuel (rest.dropWhile isSpace)
    else
      let (token, rest) := next (fuel + 1) c rest
      token :: scan fuel rest

/-- Form feeds and carriage returns count as line feeds, and a null character is none. -/
def unify (text : Text) : Text :=
  (Text.unifyLineEnds text).map fun c =>
    if c = '\x0c' then '\n' else if c = '\x00' then Html.Reference.replacement else c

def ofText (text : Text) : List Token := scan text.length (unify text)

end Token

/-- A token, or all from an opening bracket to its closing one. Commas part what is between. -/
inductive Component where
  | token (token : Token)
  | function (name : Text) (arguments : List (List Component))
  | bracketed (arguments : List (List Component))
  /-- Brackets that no selector has. -/
  | enclosed
deriving Repr

namespace Component

inductive Opening where
  | function (name : Text)
  | square
  | round
  | curly
deriving DecidableEq, Repr

def Opening.closing : Opening → Char
  | .function _ => ')'
  | .square => ']'
  | .round => ')'
  | .curly => '}'

def Opening.enclose (arguments : List (List Component)) : Opening → Component
  | .function name => .function name arguments
  | .square => .bracketed arguments
  | .round => .enclosed
  | .curly => .enclosed

/-- What has been read after an opening bracket, last first. -/
structure Content where
  finished : List (List Component)
  current : List Component

namespace Content

def empty : Content := ⟨[], []⟩

def add (component : Component) (content : Content) : Content :=
  { content with current := component :: content.current }

def part (content : Content) : Content := ⟨content.current.reverse :: content.finished, []⟩

def arguments (content : Content) : List (List Component) := content.part.finished.reverse

end Content

/-- What has been read in the innermost bracket, and around each open one. -/
structure Reading where
  inner : Content
  around : List (Opening × Content)

namespace Reading

def enter (opening : Opening) (r : Reading) : Reading :=
  { inner := .empty, around := (opening, r.inner) :: r.around }

def leave (r : Reading) : Reading :=
  match r.around with
  | (opening, content) :: around =>
    { inner := content.add (opening.enclose r.inner.arguments), around }
  | [] => r

def read (r : Reading) (token : Token) : Reading :=
  match token with
  | .function name => r.enter (.function name)
  | .mark '[' => r.enter .square
  | .mark '(' => r.enter .round
  | .mark '{' => r.enter .curly
  | .mark ',' => { r with inner := r.inner.part }
  | .mark c =>
    if (r.around.head?.map (·.1.closing)) = some c then r.leave
    else { r with inner := r.inner.add (.token token) }
  | _ => { r with inner := r.inner.add (.token token) }

end Reading

/-- The components of tokens, parted by commas. Brackets still open at the end are closed
there. -/
def ofTokens (tokens : List Token) : List (List Component) :=
  let r := tokens.foldl Reading.read { inner := .empty, around := [] }
  (r.around.foldl (fun r _ => r.leave) r).inner.arguments

end Component
end LuaMarkup.Selector
