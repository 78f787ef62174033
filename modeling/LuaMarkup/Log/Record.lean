import LuaMarkup.Classify
import LuaMarkup.Text.Quoted

/-!
Log records, and the record that reports a match.
-/

namespace LuaMarkup.Log

inductive Level where
  | debug
  | info
  | warning
  | error
  | critical
deriving DecidableEq, Repr

namespace Level

/-- From the most to the least severe. -/
def all : List Level := [.critical, .error, .warning, .info, .debug]

def name : Level → String
  | .debug => "DEBUG"
  | .info => "INFO"
  | .warning => "WARNING"
  | .error => "ERROR"
  | .critical => "CRITICAL"

def ofName? (name : String) : Option Level :=
  all.find? (·.name == name)

def severity : Level → Nat
  | .debug => 10
  | .info => 20
  | .warning => 30
  | .error => 40
  | .critical => 50

end Level

structure Record where
  logger : String
  level : Level
  message : Text
deriving DecidableEq, Repr

/-- Reports a match with its text and its context in quoted form. -/
def Record.ofMatch (m : Match) : Record :=
  { logger := "lualight.highlighter.rules"
    level := .debug
    message := m.rule.name.toList ++ " matched ".toList ++ Text.quoted m.matched ++
      " (context ".toList ++ Text.quoted m.context ++ [')'] }

end LuaMarkup.Log
