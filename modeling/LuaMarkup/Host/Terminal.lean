import LuaMarkup.Console.Wrap
import LuaMarkup.Host.Basic
import LuaMarkup.Text.Utf8

/-!
A terminal without colours whose streams are UTF-8.
-/

namespace LuaMarkup.Terminal

def decode (bytes : List UInt8) : Except StreamError Text :=
  (Text.ofBytes bytes).mapError fun e =>
    .raised { kind := "UnicodeDecodeError", message := e.message.toList }

def kind : Console.MarkupError → String
  | .numeral _ => "ValueError"
  | _ => "MarkupError"

/-- A message with markup as it is printed. -/
def layout (message : Text) : Except ReportError Text :=
  (Console.layout message).mapError fun e =>
    .stream (.raised { kind := kind e, message := e.message })

end LuaMarkup.Terminal
