import LuaMarkup.Console.Lexeme

/-!
Whether lexemes form an expression, and one that is written as a value. Expressions have values,
names, operators, calls and brackets. Lexemes are read one after another, the brackets that are
open being kept, so that what is wrong with them is told from what has been read.
-/

namespace LuaMarkup.Console

inductive ExpressionFault where
  | lexical (fault : LexicalFault)
  | strayBackslash
  | neverClosed (opening : Char)
  | unexpected
  /-- Two expressions in a row within brackets. -/
  | missingComma
  /-- A name and a `=` within brackets. -/
  | equalsAfterName
  | assignment (target : String)
  | assignmentInCall
  | missingElse
  | missingColon
  | missingEntry
  | starred
  | doubleStarred
  | missingParentheses (name : Text)
  /-- A set or a dictionary as a member of a set or as a key. -/
  | unhashable (kind : String)
  /-- An expression that would have to be worked out. -/
  | noValue
deriving DecidableEq, Repr

def ExpressionFault.message : ExpressionFault → Text
  | .lexical fault => fault.message
  | .strayBackslash => "unexpected character after line continuation character".toList
  | .neverClosed opening => s!"'{opening}' was never closed".toList
  | .unexpected => "invalid syntax".toList
  | .missingComma => "invalid syntax. Perhaps you forgot a comma?".toList
  | .equalsAfterName => "invalid syntax. Maybe you meant '==' or ':=' instead of '='?".toList
  | .assignment target =>
    s!"cannot assign to {target} here. Maybe you meant '==' instead of '='?".toList
  | .assignmentInCall =>
    "expression cannot contain assignment, perhaps you meant \"==\"?".toList
  | .missingElse => "expected 'else' after 'if' expression".toList
  | .missingColon => "':' expected after dictionary key".toList
  | .missingEntry => "expression expected after dictionary key and ':'".toList
  | .starred => "cannot use starred expression here".toList
  | .doubleStarred => "cannot use double starred expression here".toList
  | .missingParentheses name =>
    "Missing parentheses in call to '".toList ++ name ++ "'. Did you mean ".toList ++ name ++
      "(...)?".toList
  | .unhashable kind => s!"unhashable type: '{kind}'".toList
  | .noValue => "malformed node or string".toList

/-- What an expression is, so far as a `=` after it is told apart by it. -/
inductive Shape where
  | name (text : Text)
  /-- A name in parentheses. -/
  | enclosedName
  | literal
  | ellipsis
  | attribute
  | call
  | compound
  | dictionary
  | set
  | starred
  | doubleStarred
  | other
deriving DecidableEq, Repr

namespace Shape

def description? : Shape → Option String
  | .name _ => some "name"
  | .enclosedName => some "name"
  | .literal => some "literal"
  | .ellipsis => some "ellipsis"
  | .attribute => some "attribute"
  | .call => some "function call"
  | .compound => some "expression"
  | .dictionary => some "dict literal"
  | .set => some "set display"
  | .starred => none
  | .doubleStarred => none
  | .other => none

def enclosed : Shape → Shape
  | .name _ => .enclosedName
  | shape => shape

/-- The shape of what an operator makes of an expression. -/
def operated : Shape → Shape
  | .other => .other
  | .starred => .starred
  | .doubleStarred => .doubleStarred
  | _ => .compound

def unhashable? : Shape → Option String
  | .dictionary => some "dict"
  | .set => some "set"
  | _ => none

end Shape

/-- What an expression is, so far as it is written as a value. Of operators there are only signs
before a number, and one between a real and an imaginary number. -/
inductive Course where
  | start
  | signed
  | number (imaginary signed : Bool)
  /-- A sign after a real number. -/
  | added
  /-- The name of the empty set, without its parentheses. -/
  | setName
  | whole
  | noValue
deriving DecidableEq, Repr

namespace Course

def isValue : Course → Bool
  | .start | .number _ _ | .whole => true
  | _ => false

def readNumber (imaginary : Bool) : Course → Course
  | .start => .number imaginary false
  | .signed => .number imaginary true
  | .added => if imaginary then .whole else .noValue
  | _ => .noValue

def readSign : Course → Course
  | .start => .signed
  | .number false _ => .added
  | _ => .noValue

/-- After an operand that is a value as it stands. -/
def readWhole : Course → Course
  | .start => .whole
  | _ => .noValue

def readName (name : Text) : Course → Course
  | .start => if name = "set".toList then .setName else .noValue
  | _ => .noValue

/-- After an expression in parentheses. -/
def readEnclosed (inner : Course) : Course → Course
  | .start => inner
  | outer =>
    match inner with
    | .number imaginary false => outer.readNumber imaginary
    | _ => .noValue

/-- After a call. -/
def readCall (isEmpty : Bool) : Course → Course
  | .setName => if isEmpty then .whole else .noValue
  | _ => .noValue

end Course

/-- What may come next in an expression. -/
inductive Phase where
  /-- An operand or nothing. -/
  | start
  /-- An operand, with `not` before it or without. -/
  | operand (negatable : Bool)
  /-- A name after a point. -/
  | attribute
  /-- What is read after a `not` that follows an operand. -/
  | membership
  /-- An operator or the end. A quoted text may be continued by another one. -/
  | complete (quoted : Bool)
deriving DecidableEq, Repr

def Phase.isComplete : Phase → Bool
  | .complete _ => true
  | _ => false

/-- One expression of those that commas part. -/
structure Element where
  phase : Phase := .start
  shape : Option Shape := none
  /-- Whether it is a single operand so far. -/
  single : Bool := true
  /-- Whether there is an expression since an `if` that waits for its `else`. -/
  condition : Option Bool := none
  course : Course := .start
deriving DecidableEq, Repr

namespace Element

def operand (shape : Shape) (quoted : Bool) (course : Course) (e : Element) : Element :=
  { e with
    phase := .complete quoted
    shape := e.shape.orElse fun _ => some shape
    course }

/-- What follows an operand and belongs to it. -/
def extend (shape : Shape) (course : Course) (e : Element) : Element :=
  { e with
    phase := .complete false
    shape := if e.single then some shape else e.shape
    course }

def operator (shape : Shape) (negatable : Bool) (e : Element) : Element :=
  { e with
    phase := .operand negatable
    shape := some shape
    single := false
    course := .noValue }

def arithmetic (e : Element) : Element :=
  e.operator (e.shape.elim .compound Shape.operated) false

/-- A plus or a minus. -/
def sign (e : Element) : Element := { e.arithmetic with course := e.course.readSign }

end Element

/-- What is read of a part between braces. -/
inductive Entry where
  | undecided
  | member
  | key
  | value
deriving DecidableEq, Repr

inductive Bracket where
  | none
  | group
  | call
  | braces (entry : Entry)
deriving DecidableEq, Repr

def Bracket.opening : Bracket → Char
  | .braces _ => '{'
  | _ => '('

/-- What has been read since a bracket was opened. -/
structure Level where
  bracket : Bracket
  /-- Whether a comma has been read. -/
  parted : Bool := false
  element : Element := {}
deriving DecidableEq, Repr

/-- An expression is read where none can stand, to tell what is meant. -/
structure Doubt where
  depth : Nat
  fault : ExpressionFault
  /-- Whether it is read after a `=`, which takes no comparison. -/
  assigned : Bool
  /-- Whether there is an expression. -/
  complete : Bool := false
deriving DecidableEq, Repr

structure Reading where
  inner : Level := { bracket := .none }
  outer : List Level := []
  doubt : Option Doubt := none
  unhashable : Option String := none
  /-- Whether there is a part that is no value. -/
  noValue : Bool := false
deriving DecidableEq, Repr

namespace Reading

def isConditional (r : Reading) : Bool :=
  (r.inner :: r.outer).any fun level => level.element.condition == some true

/-- Nothing more can be read. Where that has no other cause, an `else` may be missing. -/
def fail (fault : ExpressionFault) (r : Reading) : Except ExpressionFault Reading :=
  match r.doubt with
  | none => .error (if fault = .unexpected ∧ r.isConditional then .missingElse else fault)
  | some doubt => .error (if doubt.complete then doubt.fault else .unexpected)

def withElement (element : Element) (r : Reading) : Reading :=
  let complete := element.phase.isComplete
  let element := { element with condition := element.condition.map (· || complete) }
  { r with
    inner := { r.inner with element }
    doubt := r.doubt.map fun doubt =>
      { doubt with complete := doubt.complete || (complete && doubt.depth == r.outer.length) } }

def enter (bracket : Bracket) (r : Reading) : Reading :=
  { r with inner := { bracket }, outer := r.inner :: r.outer }

/-- A bracket is closed, which gives an operand or belongs to the one before. -/
def leave (shape : Shape) (r : Reading) : Reading :=
  match r.outer with
  | level :: outer =>
    let inner := r.inner.element
    let isEmpty := inner.phase = .start && !r.inner.parted
    let isEnclosed := r.inner.bracket = .group && !isEmpty && !r.inner.parted
    let around : Reading :=
      { r with
        inner := level
        outer
        noValue := r.noValue || !(isEnclosed || inner.course.isValue) }
    let e := level.element
    around.withElement (
      if e.phase.isComplete then e.extend shape (e.course.readCall isEmpty)
      else
        e.operand shape false
          (if isEnclosed then inner.course.readEnclosed e.course else e.course.readWhole))
  | [] => r

/-- The next part after a comma or a colon. -/
def part (bracket : Bracket) (phase : Phase) (parted : Bool) (r : Reading) : Reading :=
  { r with
    inner := { bracket, parted, element := { phase } }
    noValue := r.noValue || !r.inner.element.course.isValue }

def checkHashable (r : Reading) : Reading :=
  { r with unhashable := r.unhashable.orElse fun _ => r.inner.element.shape.bind Shape.unhashable? }

def doubtful (fault : ExpressionFault) (assigned : Bool) (r : Reading) : Reading :=
  { r with doubt := some { depth := r.outer.length, fault, assigned } }

def resume (element : Element) (r : Reading) : Except ExpressionFault Reading :=
  .ok (r.withElement element)

/-- A lexeme where an operand has to come. -/
def readOperand (negatable : Bool) (lexeme : Lexeme) (r : Reading) :
    Except ExpressionFault Reading :=
  let e := r.inner.element
  match lexeme with
  | .strayBackslash => r.fail .strayBackslash
  | .number imaginary => r.resume (e.operand .literal false (e.course.readNumber imaginary))
  | .quoted formatted =>
    r.resume (e.operand .literal true (if formatted then .noValue else e.course.readWhole))
  | .name name =>
    if name = "not".toList ∧ negatable then r.resume (e.operator .other true)
    else if Lexeme.isConstant name then r.resume (e.operand .other false e.course.readWhole)
    else if Lexeme.isKeyword name then r.fail .unexpected
    else r.resume (e.operand (.name name) false (e.course.readName name))
  | .mark mark =>
    match String.ofList mark with
    | "(" => .ok (r.enter .group)
    | "\x7b" => .ok (r.enter (.braces .undecided))
    | "..." => r.resume (e.operand .ellipsis false e.course.readWhole)
    | "+" => r.resume e.sign
    | "-" => r.resume e.sign
    | "~" => r.resume e.arithmetic
    | _ =>
      if r.inner.bracket = .braces .value ∧ e.shape = none ∧ (mark = ['}'] ∨ mark = [',']) then
        r.fail .missingEntry
      else r.fail .unexpected

/-- A lexeme at the start of a part. -/
def readStart (lexeme : Lexeme) (r : Reading) : Except ExpressionFault Reading :=
  let e := r.inner.element
  match lexeme, r.inner.bracket with
  | .mark [')'], .group => .ok (r.leave .other)
  | .mark [')'], .call => .ok (r.leave .call)
  | .mark ['}'], .braces entry => .ok (r.leave (if entry = .member then .set else .dictionary))
  | .mark ['*'], .none => r.fail .unexpected
  | .mark ['*'], .braces .key => r.fail .unexpected
  | .mark ['*'], _ => r.resume (e.operator .starred false)
  | .mark ['*', '*'], .call => r.resume (e.operator .doubleStarred false)
  | .mark ['*', '*'], .group =>
    if r.inner.parted then r.fail .unexpected
    else r.resume (e.operator .doubleStarred false)
  | .mark ['*', '*'], .braces entry =>
    if entry = .member then r.fail .unexpected
    else
      (r.part (.braces .value) (.operand false) r.inner.parted).resume
        (e.operator .doubleStarred false)
  | _, _ => readOperand true lexeme r

/-- An operand where none can come. Within brackets a comma may be missing before it. -/
def readMisplaced (lexeme : Lexeme) (r : Reading) : Except ExpressionFault Reading :=
  let doubted (fault : ExpressionFault) : Except ExpressionFault Reading :=
    readOperand true lexeme (r.doubtful fault false)
  let twoInRow := if r.outer.isEmpty then ExpressionFault.unexpected else .missingComma
  if r.doubt.isSome then r.fail .unexpected
  else
    match r.inner.element.shape with
    | some (.name name) =>
      if name = "print".toList ∨ name = "exec".toList then doubted (.missingParentheses name)
      else if lexeme.isQuoted ∨ ["_", "case", "match"].contains (String.ofList name) then
        doubted .unexpected
      else doubted twoInRow
    | some .starred => r.fail .unexpected
    | some .doubleStarred => r.fail .unexpected
    | _ => doubted twoInRow

/-- A lexeme that ends a part. -/
def readEnd (mark : Text) (r : Reading) : Except ExpressionFault Reading :=
  let shape := r.inner.element.shape.getD .other
  match mark, r.inner.bracket with
  | [','], .none => .ok (r.part .none .start true)
  | [','], .group =>
    if shape = .doubleStarred then r.fail .unexpected else .ok (r.part .group .start true)
  | [','], .call => .ok (r.part .call .start true)
  | [','], .braces .value => .ok (r.part (.braces .key) .start true)
  | [','], .braces .key => r.fail .missingColon
  | [','], .braces _ => .ok (r.checkHashable.part (.braces .member) .start true)
  | [')'], .group =>
    if r.inner.parted then .ok (r.leave .other)
    else if shape = .starred then r.fail .starred
    else if shape = .doubleStarred then r.fail .doubleStarred
    else .ok (r.leave shape.enclosed)
  | [')'], .call => .ok (r.leave .call)
  | ['}'], .braces .value => .ok (r.leave .dictionary)
  | ['}'], .braces .key => r.fail .missingColon
  | ['}'], .braces _ => .ok (r.checkHashable.leave .set)
  | [':'], .braces .undecided =>
    .ok (r.checkHashable.part (.braces .value) (.operand true) r.inner.parted)
  | [':'], .braces .key =>
    .ok (r.checkHashable.part (.braces .value) (.operand true) r.inner.parted)
  | _, .braces .key => r.fail .missingColon
  | _, _ => r.fail .unexpected

/-- A `=` after an expression. -/
def readEquals (r : Reading) : Except ExpressionFault Reading :=
  let expected (fault : ExpressionFault) : Except ExpressionFault Reading :=
    let r := r.doubtful fault true
    r.resume { r.inner.element with phase := .operand false }
  let assigned : Except ExpressionFault Reading :=
    match r.inner.element.shape with
    | some (.name _) => expected .equalsAfterName
    | some shape =>
      match shape.description? with
      | some target => expected (.assignment target)
      | none => r.fail .unexpected
    | none => r.fail .unexpected
  match r.inner.bracket with
  | .group => assigned
  | .braces .undecided => assigned
  | .braces .member => assigned
  | .call =>
    match r.inner.element.shape with
    | some (.name _) => .ok (r.part .call (.operand true) true)
    | some .other => r.fail .unexpected
    | _ => r.fail .assignmentInCall
  | .braces .key => r.fail .missingColon
  | _ => r.fail .unexpected

def arithmeticMarks : List String :=
  ["*", "/", "//", "%", "@", "<<", ">>", "&", "|", "^", "**"]

def comparisonMarks : List String := ["==", "!=", "<", ">", "<=", ">="]

/-- A lexeme after a complete expression. -/
def readComplete (quoted : Bool) (lexeme : Lexeme) (r : Reading) :
    Except ExpressionFault Reading :=
  let e := r.inner.element
  let isAssigned := r.doubt.any fun doubt => doubt.assigned && doubt.depth == r.outer.length
  let compare (negatable : Bool) : Except ExpressionFault Reading :=
    if isAssigned then r.fail .unexpected else r.resume (e.operator .other negatable)
  let ended (otherwise : Except ExpressionFault Reading) : Except ExpressionFault Reading :=
    if r.doubt.any (·.depth == r.outer.length) then r.fail .unexpected
    else if e.condition.isSome then r.fail .missingElse
    else otherwise
  match lexeme with
  | .strayBackslash => .error .strayBackslash
  | .quoted formatted =>
    if !quoted then ended (r.readMisplaced lexeme)
    else if formatted then r.resume { e with course := .noValue }
    else .ok r
  | .number _ => ended (r.readMisplaced lexeme)
  | .name name =>
    match String.ofList name with
    | "and" => compare true
    | "or" => compare true
    | "in" => compare false
    | "is" => compare true
    | "not" =>
      if isAssigned then r.fail .unexpected
      else r.resume { e with phase := .membership }
    | "if" =>
      if isAssigned then r.fail .unexpected
      else if e.condition.isSome then r.fail .missingElse
      else r.resume { e.operator .other true with condition := some false }
    | "else" =>
      if e.condition.isSome then r.resume { e.operator .other true with condition := none }
      else r.fail .unexpected
    | _ =>
      if Lexeme.isKeyword name ∧ !Lexeme.isConstant name then
        ended (if r.inner.bracket = .braces .key then r.fail .missingColon else r.fail .unexpected)
      else ended (r.readMisplaced lexeme)
  | .mark mark =>
    let spelling := String.ofList mark
    if spelling = "+" ∨ spelling = "-" then r.resume e.sign
    else if arithmeticMarks.contains spelling then r.resume e.arithmetic
    else if comparisonMarks.contains spelling then compare false
    else
      match spelling with
      | "(" => .ok (r.enter .call)
      | "." => r.resume { e with phase := .attribute }
      | "\x7b" => ended (r.readMisplaced lexeme)
      | "~" => ended (r.readMisplaced lexeme)
      | "..." => ended (r.readMisplaced lexeme)
      | "=" => if isAssigned then .error .unexpected else ended r.readEquals
      | ":=" =>
        if isAssigned then .error .unexpected
        else
          ended (match e.shape, r.inner.bracket with
            | _, .none => r.fail .unexpected
            | some (.name _), _ => r.resume (e.operator .other true)
            | _, _ => r.fail .unexpected)
      | ":" =>
        if e.condition.isSome ∧ r.doubt.isNone then .error .unexpected
        else ended (r.readEnd mark)
      | _ => ended (r.readEnd mark)

def read (r : Reading) (lexeme : Lexeme) : Except ExpressionFault Reading :=
  let e := r.inner.element
  match e.phase with
  | .start => r.readStart lexeme
  | .operand negatable => r.readOperand negatable lexeme
  | .attribute =>
    match lexeme with
    | .name name =>
      if Lexeme.isKeyword name then r.fail .unexpected else r.resume (e.extend .attribute .noValue)
    | _ => r.fail .unexpected
  | .membership =>
    if lexeme = .name "in".toList then r.resume (e.operator .other false)
    else do
      let r ← r.readMisplaced (.name "not".toList)
      r.readOperand true lexeme
  | .complete quoted => r.readComplete quoted lexeme

/-- All has been read. -/
def finish (r : Reading) : Except ExpressionFault Unit :=
  let e := r.inner.element
  if !r.outer.isEmpty then .error (.neverClosed r.inner.bracket.opening)
  else if e.phase.isComplete then
    match r.doubt with
    | some doubt => .error doubt.fault
    | none => if e.condition.isSome then .error .missingElse else .ok ()
  else if e.phase = .start ∧ r.inner.parted then .ok ()
  else (r.fail .unexpected).map fun _ => ()

end Reading

/-- Checks that a text is an expression that is written as a value, in which neither a member of a
set nor a key of a dictionary is a set or a dictionary. -/
def checkExpression (text : Text) : Except ExpressionFault Unit := do
  let lexemes ← (Lexeme.ofText text).mapError .lexical
  let lexemes := (lexemes.reverse.dropWhile (· = .mark ['\n'])).reverse
  let r ← lexemes.foldlM Reading.read {}
  r.finish
  if r.noValue ∨ !r.inner.element.course.isValue then throw .noValue
  match r.unhashable with
  | some kind => throw (.unhashable kind)
  | none => return ()

end LuaMarkup.Console
