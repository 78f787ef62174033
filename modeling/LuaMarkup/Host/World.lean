import LuaMarkup.Host.Basic

/-!
A host of which nothing is known: what it answers may depend on all that has happened before.
-/

namespace LuaMarkup

/-- A request and its answer. -/
structure Event where
  request : Request
  answer : request.Answer

/-- What a request would be answered with after what has happened. -/
abbrev World : Type := List Event → (request : Request) → request.Answer

/-- A host whose files can be read, and which does all that is asked for. -/
def World.reading (read : FilePath → Except FileError (List UInt8)) : World := fun _ request =>
  match request with
  | .workDirectory => .ok (.ofText ['/'])
  | .read path => read path
  | .write _ _ | .append _ _ | .makeDirectory _ | .print _ | .report _ => .ok ()
  | .isDirectory _ => true
  | .input => .ok []
  | .printError _ => ()
  | .stamp => { time := [], line := [] }
  | .seed => 0

/-- Actions that make requests to a world. -/
def Scripted (_ : World) (α : Type) : Type := StateM (List Event) α

namespace Scripted

variable {world : World} {α : Type}

instance : Monad (Scripted world) := inferInstanceAs (Monad (StateM (List Event)))

instance : LawfulMonad (Scripted world) := inferInstanceAs (LawfulMonad (StateM (List Event)))

instance : Host (Scripted world) where
  ask request := fun history =>
    let answer := world history request
    (answer, history ++ [{ request, answer }])

/-- What an action comes to after a history, and the history by then. -/
def after (action : Scripted world α) (history : List Event) : α × List Event := action history

end Scripted
end LuaMarkup
