import LuaMarkup.Command.Help
import LuaMarkup.Settings.Basic

/-!
The commands that a command line can ask for.
-/

namespace LuaMarkup

inductive Command where
  /-- Print the markup of a source. -/
  | source (file : Text)
  /-- Highlight the elements of a class on a page, and write the page to a file if one is
  named. -/
  | page (file : Text) (output : Option Text) (cssClass : Text)
deriving DecidableEq, Repr

namespace Command

structure Invocation where
  trace : Bool
  command : Command
deriving DecidableEq, Repr

/-- Why there is nothing to do. -/
inductive Refused where
  | help (topic : Topic)
  | misuse (topic : Topic) (cause : Misuse)
deriving DecidableEq, Repr

def parseTopic (topic : Topic) (wanted : Wanted) (arguments : List Text) :
    Except Refused Parsed :=
  (parse topic.options wanted arguments).mapError fun
    | .help => .help topic
    | .misuse cause => .misuse topic cause

/-- The value of an option, the last one if it is given more than once. -/
def Parsed.value? (parsed : Parsed) (opt : Opt) : Option Text :=
  (parsed.given.reverse.find? (·.opt == opt)).bind (·.value)

/-- Whether tracing is asked for. -/
def Parsed.trace? (parsed : Parsed) : Option Bool :=
  (parsed.given.reverse.find? (·.opt == .trace)).map (·.name == "--trace".toList)

def Parsed.operand (parsed : Parsed) (topic : Topic) (name : String) : Except Refused Text :=
  match parsed.operands with
  | operand :: _ => .ok operand
  | [] => .error (.misuse topic (.operandMissing name))

def names : List Text := ["source".toList, "page".toList]

/-- A command with its own arguments, and those of them that nothing was made of. -/
def ofArguments (settings : Settings) (name : Text) (arguments : List Text) :
    Except Refused (Command × List Text) :=
  if name = "source".toList then do
    let parsed ← parseTopic .source .one arguments
    return (.source (← parsed.operand .source "file"), parsed.extras)
  else if name = "page".toList then do
    let parsed ← parseTopic .page .one arguments
    let file ← parsed.operand .page "file"
    let cssClass := (parsed.value? .cssClass).getD settings.highlight.cssClass
    return (.page file (parsed.value? .output) cssClass, parsed.extras)
  else .error (.misuse .program (.unknownCommand name names))

/-- What the arguments ask for, where the settings leave a choice. -/
def Invocation.ofArguments (settings : Settings) (arguments : List Text) :
    Except Refused Invocation := do
  let parsed ← parseTopic .program .rest arguments
  match parsed.operands with
  | [] => .error (.misuse .program (.operandMissing "command"))
  | name :: rest =>
    let (command, extras) ← Command.ofArguments settings name rest
    let extras := parsed.extras ++ extras
    if extras.isEmpty then
      return { trace := parsed.trace?.getD settings.highlight.trace, command }
    else .error (.misuse .program (.unrecognised extras))

end Command
end LuaMarkup
