import LuaMarkup.Console.Expression
import LuaMarkup.Text.Blank

/-!
Tags that name a handler for what they enclose. A handler has arguments: a name with values in
parentheses, or an expression.
-/

namespace LuaMarkup.Console

/-- Arguments that cannot be read. `value` is the part of them that is to be an expression. -/
structure HandlerFault where
  parameters : Text
  value : Text
  cause : ExpressionFault
deriving DecidableEq, Repr

def HandlerFault.message (fault : HandlerFault) : Text :=
  "error parsing ".toList ++
    match fault.cause with
    | .unhashable _ | .noValue => Text.quoted fault.parameters ++ "; ".toList ++ fault.cause.message
    | _ =>
      Text.quoted fault.value ++ " in ".toList ++ Text.quoted fault.parameters ++ "; ".toList ++
        fault.cause.message

namespace Handler

/-- What is to be an expression in the arguments of a handler. A name alone stands for a name and
empty parentheses. -/
def value (parameters : Text) : Text :=
  let arguments := parameters.dropWhile fun c => Text.isWordChar c || c == '.'
  let isEnclosed := arguments.head? = some '(' && arguments.getLast? = some ')' &&
    !arguments.contains '\n'
  if arguments.isEmpty then ['(', ')'] else if isEnclosed then arguments else parameters

/-- The arguments of a handler have to be written as values. -/
def check (parameters : Text) : Except HandlerFault Unit :=
  if parameters.isEmpty then .ok ()
  else
    let value := value (Text.trim parameters)
    (checkExpression value).mapError fun cause => { parameters, value, cause }

end Handler
end LuaMarkup.Console
