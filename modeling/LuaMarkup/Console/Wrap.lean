import LuaMarkup.Console.Grapheme
import LuaMarkup.Console.Markup

/-!
Messages laid out in lines of a width. A line is broken before a word that does not fit into it,
and a word that fits into no line is cut. Blanks stay with the word before them as far as the
line goes.
-/

namespace LuaMarkup.Console

/-- The parts of a line put together from a column on. Each tab between two of them is a space or
more, up to the next multiple of eight columns. -/
def fillTabs : (column : Nat) → List Text → Text
  | _, [] => []
  | _, [part] => part
  | column, part :: parts =>
    let part := part ++ [' ']
    let column := column + width part
    let spaces := (8 - column % 8) % 8
    part ++ List.replicate spaces ' ' ++ fillTabs (column + spaces) parts

def expandTabs (line : Text) : Text := fillTabs 0 (Text.pieces '\t' line)

/-- The words of a line, each with the blanks after it, and the first with those before it. -/
def words (line : Text) : List Text :=
  let start := line.takeWhile Text.isBlank
  match line.drop start.length with
  | [] => []
  | rest =>
    match collect rest with
    | word :: words => (start ++ word) :: words
    | [] => []
where
  /-- The words of a text, a word ending where a blank is followed by another character. -/
  collect : Text → List Text
    | [] => []
    | [c] => [[c]]
    | c :: d :: rest =>
      if Text.isBlank c && !Text.isBlank d then [c] :: collect (d :: rest)
      else
        match collect (d :: rest) with
        | word :: words => (c :: word) :: words
        | [] => [[c]]

/-- A word cut into pieces of at most a width. `used` columns of the first are taken. -/
def chop (limit : Nat) : (used : Nat) → List Grapheme → List Text
  | _, [] => [[]]
  | used, g :: rest =>
    let fits := used + g.width ≤ limit
    match chop limit (if fits then used + g.width else g.width) rest with
    | piece :: pieces =>
      if fits then (g.text ++ piece) :: pieces else [] :: (g.text ++ piece) :: pieces
    | [] => []

/-- Lines that are being filled: those that are full, and the last one with the columns that
are taken in it. -/
structure Filling where
  full : List Text := []
  last : Text := []
  used : Nat := 0

def Filling.break (f : Filling) : Filling :=
  if f.full.isEmpty ∧ f.last.isEmpty then f
  else { full := f.full ++ [f.last], last := [], used := 0 }

def Filling.add (f : Filling) (piece : Text) : Filling :=
  { f with last := f.last ++ piece, used := f.used + width piece }

/-- A line takes a word if it fits without the blanks after it. -/
def Filling.word (limit : Nat) (f : Filling) (word : Text) : Filling :=
  let needed := width (Text.trimEnd word)
  if f.used + needed ≤ limit then f.add word
  else if limit < needed then
    (chop limit 0 (Grapheme.ofText word)).foldl (fun f piece => f.break.add piece) f
  else f.break.add word

/-- A text cut to a width. What would be cut in two gives way to a space. -/
def crop (limit : Nat) : List Grapheme → Text
  | [] => []
  | g :: rest =>
    if limit = 0 then []
    else if limit < g.width then [' ']
    else g.text ++ crop (limit - g.width) rest

/-- A line without the blanks at its end that are beyond a number of characters. -/
def dropOverhang (limit : Nat) (line : Text) : Text :=
  let blanks := (line.reverse.takeWhile Text.isBlank).length
  line.take (line.length - min blanks (line.length - limit))

def fit (limit : Nat) (line : Text) : Text :=
  let line := dropOverhang limit line
  if limit < width line then crop limit (Grapheme.ofText line) else line

/-- The lines into which one line goes. -/
def wrapLine (limit : Nat) (line : Text) : List Text :=
  let line := expandTabs line
  match words line with
  | [] => [fit limit line]
  | words =>
    let f := words.foldl (Filling.word limit) {}
    (f.full ++ [f.last]).map (fit limit)

def lines : Text → List Text
  | [] => [[]]
  | c :: rest =>
    if c = '\n' then [] :: lines rest
    else
      match lines rest with
      | line :: lines => (c :: line) :: lines
      | [] => [[c]]

def columns : Nat := 80

/-- A message as it is printed. -/
def layout (message : Text) : Except MarkupError Text :=
  (plainText message).map fun text =>
    List.intercalate ['\n'] ((lines text).flatMap (wrapLine columns)) ++ ['\n']

end LuaMarkup.Console
