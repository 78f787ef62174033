import LuaMarkup.Decimal
import LuaMarkup.Text.Quoted

/-!
Command lines of options and operands. An option may be shortened as long as one name is left
that it can mean, may have its value attached, and may stand before or after the operands.
After `--` there are only operands.
-/

namespace LuaMarkup.Command

inductive Opt where
  | help
  | trace
  | output
  | cssClass
deriving DecidableEq, Repr

namespace Opt

def names : Opt → List Text
  | .help => ["-h".toList, "--help".toList]
  | .trace => ["--trace".toList, "--no-trace".toList]
  | .output => ["-o".toList, "--output".toList]
  | .cssClass => ["--class".toList]

def takesValue : Opt → Bool
  | .help | .trace => false
  | .output | .cssClass => true

/-- The names of an option as messages have them. -/
def title (opt : Opt) : Text := List.intercalate ['/'] opt.names

end Opt

/-- What is wrong with a command line. -/
inductive Misuse where
  | ambiguous (argument : Text) (meanings : List Text)
  | valueMissing (opt : Opt)
  | valueIgnored (opt : Opt) (value : Text)
  | operandMissing (name : String)
  | unknownCommand (name : Text) (commands : List Text)
  | unrecognised (arguments : List Text)
deriving DecidableEq, Repr

def Misuse.message : Misuse → Text
  | .ambiguous argument meanings =>
    "ambiguous option: ".toList ++ argument ++ " could match ".toList ++
      List.intercalate ", ".toList meanings
  | .valueMissing opt => "argument ".toList ++ opt.title ++ ": expected one argument".toList
  | .valueIgnored opt value =>
    "argument ".toList ++ opt.title ++ ": ignored explicit argument ".toList ++
      Text.quoted value
  | .operandMissing name => "the following arguments are required: ".toList ++ name.toList
  | .unknownCommand name commands =>
    "argument command: invalid choice: ".toList ++ Text.quoted name ++
      " (choose from ".toList ++ List.intercalate ", ".toList (commands.map Text.quoted) ++ [')']
  | .unrecognised arguments =>
    "unrecognized arguments: ".toList ++ List.intercalate [' '] arguments

/-- A word of a command line. -/
inductive Word where
  | operand (text : Text)
  | separator
  /-- An option under its full name, with the value that is part of the word. -/
  | option (opt : Opt) (name : Text) (attached : Option Text)
  /-- A word that looks like an option and is none. -/
  | unknown (text : Text)
deriving DecidableEq, Repr

namespace Word

def named? (options : List Opt) (name : Text) : Option Opt :=
  options.find? (·.names.contains name)

/-- Whether a word that begins with a dash is a number. -/
def isNegativeNumber (text : Text) : Bool :=
  match text with
  | '-' :: number =>
    let number := if number.getLast? = some '\n' then number.dropLast else number
    let whole := number.takeWhile isDecimalDigit
    match number.drop whole.length with
    | [] => !whole.isEmpty
    | '.' :: fraction => !fraction.isEmpty && fraction.all isDecimalDigit
    | _ => false
  | _ => false

/-- The part of a text before its first `=`, and the part after it. -/
def splitEquals (text : Text) : Text × Option Text :=
  let name := text.takeWhile (· != '=')
  (name, (text.drop name.length).tail?)

/-- The words that the start of an option, or an option with its value attached, can be. -/
def meanings (options : List Opt) (text : Text) : List (Opt × Text × Option Text) :=
  let all := options.flatMap fun opt => opt.names.map (opt, ·)
  match text with
  | '-' :: '-' :: _ =>
    let (start, value) := splitEquals text
    all.filterMap fun (opt, name) =>
      if start.isPrefixOf name then
        some (opt, name, value)
      else none
  | _ =>
    all.filterMap fun (opt, name) =>
      if name = text.take 2 then
        some (opt, name, some (text.drop 2))
      else if text.isPrefixOf name then some (opt, name, none)
      else none

/-- A word before any `--`. One that begins with a dash but is a number or has a space in it is
an operand. -/
def read (options : List Opt) (text : Text) : Except Misuse Word :=
  if text.head? ≠ some '-' then .ok (.operand text)
  else
    match named? options text with
    | some opt => .ok (.option opt text none)
    | none =>
      if text.length = 1 then .ok (.operand text)
      else
        let (name, value) := splitEquals text
        match value, named? options name with
        | some value, some opt => .ok (.option opt name (some value))
        | _, _ =>
          match meanings options text with
          | [(opt, name, attached)] => .ok (.option opt name attached)
          | [] =>
            if isNegativeNumber text ∨ ' ' ∈ text then .ok (.operand text)
            else .ok (.unknown text)
          | several => .error (.ambiguous text (several.map (·.2.1)))

/-- The words of a command line. -/
def readAll (options : List Opt) : List Text → Except Misuse (List Word)
  | [] => .ok []
  | text :: texts =>
    if text = ['-', '-'] then .ok (.separator :: texts.map .operand)
    else do
      let word ← read options text
      let words ← readAll options texts
      return word :: words

end Word

/-- An option that is given. -/
structure Given where
  opt : Opt
  name : Text
  value : Option Text := none
deriving DecidableEq, Repr

/-- What a word of options gives. -/
structure Cluster where
  given : List Given := []
  /-- The last option, if its value is to come from the next word. -/
  waiting : Option Opt := none
deriving DecidableEq, Repr

/-- An option without a value attached. -/
def Cluster.ofName (opt : Opt) (name : Text) : Cluster :=
  if opt.takesValue then { waiting := some opt } else { given := [{ opt, name }] }

def Cluster.cons (given : Given) (cluster : Cluster) : Cluster :=
  { cluster with given := given :: cluster.given }

/-- An option with a value attached. To an option of one letter that takes no value, further
options of one letter can be attached, the last of them with its value. -/
def Cluster.ofValue (options : List Opt) (opt : Opt) (name value : Text) :
    Except Misuse Cluster :=
  if opt.takesValue then .ok { given := [{ opt, name, value := some value }] }
  else
    match value with
    | [] => .error (.valueIgnored opt [])
    | c :: rest =>
      if name.take 2 = ['-', '-'] then .error (.valueIgnored opt (c :: rest))
      else
        match Word.named? options ['-', c] with
        | none => .error (.valueIgnored opt (c :: rest))
        | some next =>
          let given : Given := { opt, name }
          if rest.isEmpty then .ok ((ofName next ['-', c]).cons given)
          else (ofValue options next ['-', c] rest).map (·.cons given)
termination_by value.length

/-- A command line taken apart. -/
structure Parsed where
  given : List Given := []
  /-- The operands that were asked for. -/
  operands : List Text := []
  /-- The words that nothing was made of. -/
  extras : List Text := []
deriving DecidableEq, Repr

/-- Which operands are asked for: one, or the first and everything after it. -/
inductive Wanted where
  | one
  | rest
deriving DecidableEq, Repr

/-- Why the reading of a command line ends before the line does. -/
inductive Halt where
  | help
  | misuse (cause : Misuse)
deriving DecidableEq, Repr

namespace Parsed

def leave (parsed : Parsed) (texts : List Text) : Parsed :=
  { parsed with extras := parsed.extras ++ texts }

/-- The options of a word with the words after it. A request for help ends the reading. -/
def take (parsed : Parsed) (cluster : Cluster) (words : List (Text × Word)) :
    Except Halt (Parsed × List (Text × Word)) := do
  let (given, words) ←
    match cluster.waiting, words with
    | none, words => pure (cluster.given, words)
    | some opt, (value, .operand _) :: words =>
      pure (cluster.given ++ [{ opt, name := [], value := some value }], words)
    | some opt, _ => throw (.misuse (.valueMissing opt))
  if given.any (·.opt == .help) then throw .help
  return ({ parsed with given := parsed.given ++ given }, words)

def dropSeparator : List (Text × Word) → List (Text × Word)
  | (_, .separator) :: words => words
  | words => words

/-- Goes through words that each come with their text. A separator beside an operand that is
asked for goes with it. -/
def walk (options : List Opt) (wanted : Wanted) :
    (fuel : Nat) → Parsed → List (Text × Word) → Except Halt Parsed
  | 0, parsed, _ => .ok parsed
  | _ + 1, parsed, [] => .ok parsed
  | fuel + 1, parsed, (text, .unknown _) :: words =>
    walk options wanted fuel (parsed.leave [text]) words
  | fuel + 1, parsed, (_, .option opt name attached) :: words => do
    let cluster ←
      match attached with
      | none => pure (Cluster.ofName opt name)
      | some value => (Cluster.ofValue options opt name value).mapError .misuse
    let (parsed, words) ← parsed.take cluster words
    walk options wanted fuel parsed words
  | fuel + 1, parsed, (text, .operand _) :: words =>
    if parsed.operands ≠ [] then walk options wanted fuel (parsed.leave [text]) words
    else
      match wanted with
      | .one => walk options wanted fuel { parsed with operands := [text] } (dropSeparator words)
      | .rest => .ok { parsed with operands := text :: words.map (·.1) }
  | fuel + 1, parsed, (text, .separator) :: words =>
    match parsed.operands, wanted, words with
    | [], .one, (operand, _) :: words =>
      walk options wanted fuel { parsed with operands := [operand] } words
    | [], .rest, _ :: _ => .ok { parsed with operands := text :: words.map (·.1) }
    | _, _, _ => walk options wanted fuel (parsed.leave [text]) words

end Parsed

/-- Takes a command line apart. All words are looked at before any is acted on. -/
def parse (options : List Opt) (wanted : Wanted) (texts : List Text) : Except Halt Parsed := do
  let words ← (Word.readAll options texts).mapError .misuse
  Parsed.walk options wanted texts.length {} (texts.zip words)

end LuaMarkup.Command
