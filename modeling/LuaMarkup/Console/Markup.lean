import LuaMarkup.Console.Handler
import LuaMarkup.Console.Picture
import LuaMarkup.Console.Style

/-!
Markup in console messages. A tag in square brackets opens a style and one that begins with a
slash closes it; no style shows where there are no colours, so that all that is left of the tags
is what is wrong with them. A backslash before a bracket makes it text.
-/

namespace LuaMarkup.Console

structure Tag where
  name : Text
  parameters : Option Text
deriving DecidableEq, Repr

namespace Tag

/-- A tag from what stands between its brackets. -/
def ofText (inner : Text) : Tag :=
  let name := inner.takeWhile (· != '=')
  match inner.drop name.length with
  | _ :: parameters => { name, parameters := some parameters }
  | [] => { name, parameters := none }

def toText (tag : Tag) : Text :=
  match tag.parameters with
  | some parameters => ['['] ++ tag.name ++ ['='] ++ parameters ++ [']']
  | none => ['['] ++ tag.name ++ [']']

end Tag

/-- What a message is made of. The position of a tag is that of its bracket. -/
inductive Item where
  | plain (text : Text)
  | tag (position : Nat) (tag : Tag)
deriving DecidableEq, Repr

def startsTag (c : Char) : Bool :=
  ('a' ≤ c && c ≤ 'z') || c == '#' || c == '/' || c == '@'

/-- What stands between the brackets of the tag that a text starts with. -/
def inner? : Text → Option Text
  | '[' :: c :: rest =>
    if startsTag c then
      let inner := rest.takeWhile fun d => d != ']' && d != '['
      if (rest.drop inner.length).head? = some ']' then some (c :: inner) else none
    else none
  | _ => none

/-- A plain item with its pictures, from its characters in reverse. A bracket after a backslash is
text. -/
def Item.ofPiece (reversed : Text) : List Item :=
  if reversed.isEmpty then [] else [.plain (withPictures (unescape reversed.reverse))]
where
  unescape : Text → Text
    | '\\' :: '[' :: rest => '[' :: unescape rest
    | c :: rest => c :: unescape rest
    | [] => []

/-- The items of a text that stands at a position, `read` being what precedes it in reverse. Of
the backslashes before a tag each pair is one backslash, and one that is left over makes the tag
text. Pictures do not reach from one item into the next. -/
def items (read : Text) (position : Nat) (text : Text) : List Item :=
  match text with
  | [] => Item.ofPiece read
  | c :: rest =>
    let slashes := (text.takeWhile (· == '\\')).length
    match inner? (text.drop slashes) with
    | some inner =>
      let next := items [] (position + slashes + inner.length + 2)
        (rest.drop (slashes + inner.length + 1))
      Item.ofPiece read ++ .plain (List.replicate (slashes / 2) '\\') ::
        (if slashes % 2 = 1 then .plain (withPictures (['['] ++ inner ++ [']']))
        else .tag (position + slashes) (.ofText inner)) :: next
    | none => items (c :: read) (position + 1) rest
termination_by text.length
decreasing_by all_goals simp only [List.length_drop, List.length_cons]; omega

inductive MarkupError where
  | notOpen (tag : Tag) (position : Nat)
  | nothingOpen (position : Nat)
  /-- The arguments of a handler that cannot be read, and why. -/
  | handler (fault : HandlerFault)
  | numeral (fault : NumeralFault)
deriving DecidableEq, Repr

def MarkupError.message : MarkupError → Text
  | .notOpen tag position =>
    "closing tag '".toList ++ tag.toText ++ "' at position ".toList ++
      Nat.toDigits 10 position ++ " doesn't match any open tag".toList
  | .nothingOpen position =>
    "closing tag '[/]' at position ".toList ++ Nat.toDigits 10 position ++
      " has nothing to close".toList
  | .handler fault => fault.message
  | .numeral fault => fault.message.toList

/-- A tag that is closed. The arguments of a handler have to be values. -/
def Tag.close (tag : Tag) : Except MarkupError Unit :=
  match tag.name, tag.parameters with
  | '@' :: _, some parameters => (Handler.check parameters).mapError .handler
  | _, _ => .ok ()

/-- The innermost open tag of a name, and the others. -/
def takeOpen (name : Text) : List Tag → Option (Tag × List Tag)
  | [] => none
  | tag :: opened =>
    if tag.name = name then some (tag, opened)
    else (takeOpen name opened).map fun (found, others) => (found, tag :: others)

/-- The text of the items. The open tags are listed from the innermost on. -/
def render : (opened : List Tag) → List Item → Except MarkupError Text
  | _, [] => .ok []
  | opened, .plain text :: items => (render opened items).map (text ++ ·)
  | opened, .tag position tag :: items =>
    match tag.name with
    | '/' :: name =>
      if (Text.trim name).isEmpty then
        match opened with
        | tag :: opened => do
          tag.close
          render opened items
        | [] => .error (.nothingOpen position)
      else do
        let name ← (normalise name).mapError .numeral
        match takeOpen name opened with
        | some (found, opened) =>
          found.close
          render opened items
        | none => .error (.notOpen tag position)
    | name => do
      let name ← (normalise name).mapError .numeral
      render ({ tag with name } :: opened) items

/-- The style of a tag that opens one is its name with what follows the `=`. It may name no style,
but what it has of colours has to be numbers. -/
def Tag.checkStyle (tag : Tag) : Except NumeralFault Unit :=
  if tag.name.head? = some '/' then .ok ()
  else do
    let name ← normalise tag.name
    let _ ← Style.read? {} (wordsOf (name ++ ' ' :: tag.parameters.getD []))
    return ()

def Item.tag? : Item → Option Tag
  | .plain _ => none
  | .tag _ found => some found

/-- Characters that a console would act on and that are left out. -/
def isControl (c : Char) : Bool :=
  c == '\x07' || c == '\x08' || c == '\x0b' || c == '\x0c' || c == '\x0d'

/-- The text of a message with its pictures and without its tags. -/
def plainText (message : Text) : Except MarkupError Text := do
  let items := items [] 0 message
  let text ← render [] items
  ((items.filterMap Item.tag?).forM Tag.checkStyle).mapError .numeral
  return text.filter (!isControl ·)

end LuaMarkup.Console
