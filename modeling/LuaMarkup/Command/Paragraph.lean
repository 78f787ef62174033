import LuaMarkup.Text.Blank
import LuaMarkup.Text.Word

/-!
Paragraphs set in lines of at most a number of characters. A line may also end after a hyphen
between letters and at a dash, and a piece longer than a line is cut.
-/

namespace LuaMarkup.Command.Paragraph

/-- What can stand before a dash. -/
def isWordPunctuation (c : Char) : Bool :=
  Text.isWordChar c || ['!', '"', '\'', '&', '.', ',', '?'].contains c

def isGap (c : Char) : Bool := Text.isMarkupSpace c || c == '\x0b'

/-- Whether a text starts with a dash of two or more hyphens and a word after it. -/
def startsDash (text : Text) : Bool :=
  let hyphens := (text.takeWhile (· == '-')).length
  2 ≤ hyphens && (text.drop hyphens).head?.any Text.isWordChar

/-- Whether a line may end after the hyphen that a text starts with. `before` is what precedes
the hyphen, reversed. -/
def breaksAfterHyphen (before text : Text) : Bool :=
  (match before with
    | a :: b :: _ => (Text.isLetter a && Text.isLetter b) ||
        (Text.isLetter a && b == '-' && (before.drop 2).head?.any Text.isLetter)
    | _ => false) &&
  (match text with
    | '-' :: a :: '-' :: b :: _ => Text.isLetter a && Text.isLetter b
    | '-' :: a :: b :: _ => Text.isLetter a && Text.isLetter b
    | _ => false)

/-- The length of the word that goes on with a text, at least one character of it having been
read. -/
def wordLength : (before text : Text) → Nat
  | _, [] => 0
  | before, c :: rest =>
    if c = '-' ∧ breaksAfterHyphen before (c :: rest) then 1
    else if isGap c then 0
    else if before.head?.any isWordPunctuation ∧ startsDash (c :: rest) then 0
    else 1 + wordLength (c :: before) rest

/-- The length of the piece that a text starts with. -/
def pieceLength (before text : Text) : Nat :=
  match text with
  | [] => 0
  | c :: rest =>
    if isGap c then (text.takeWhile isGap).length
    else if before.head?.any isWordPunctuation ∧ startsDash text then
      (text.takeWhile (· == '-')).length
    else 1 + wordLength (c :: before) rest

/-- The pieces of a text that lines are made of. -/
def pieces : (fuel : Nat) → (before text : Text) → List Text
  | fuel + 1, before, c :: rest =>
    let piece := (c :: rest).take (max 1 (pieceLength before (c :: rest)))
    piece :: pieces fuel (piece.reverse ++ before) ((c :: rest).drop piece.length)
  | _, _, _ => []

/-- As many pieces as a line has room for, and the others. -/
def takeFitting (room : Nat) : List Text → List Text × List Text
  | [] => ([], [])
  | piece :: pieces =>
    if piece.length ≤ room then
      let (taken, left) := takeFitting (room - piece.length) pieces
      (piece :: taken, left)
    else ([], piece :: pieces)

/-- Where a piece that is too long is cut: after the last hyphen that there is room for, unless
only hyphens precede it. -/
def cutPosition (room : Nat) (piece : Text) : Nat :=
  let before := (piece.take room).reverse.dropWhile (· != '-')
  match before with
  | _ :: head => if head.any (· != '-') then before.length else room
  | [] => room

def isGapPiece (piece : Text) : Bool := piece.all Text.isBlank

/-- The next line of some pieces, and the pieces left. -/
def nextLine (limit : Nat) (pieces : List Text) : List Text × List Text :=
  let (line, left) := takeFitting limit pieces
  let (line, left) :=
    match left with
    | piece :: left' =>
      if limit < piece.length then
        let cut := cutPosition (limit - line.flatten.length) piece
        (line ++ [piece.take cut], piece.drop cut :: left')
      else (line, left)
    | [] => (line, left)
  (if line.getLast?.any isGapPiece then line.dropLast else line, left)

/-- The lines of some pieces. No line but the first begins with a gap. -/
def fillLines (limit : Nat) : (fuel : Nat) → (started : Bool) → List Text → List Text
  | fuel + 1, started, piece :: pieces =>
    let pieces := if started && isGapPiece piece then pieces else piece :: pieces
    let (line, left) := nextLine limit pieces
    if line.isEmpty then fillLines limit fuel started left
    else line.flatten :: fillLines limit fuel true left
  | _, _, _ => []

/-- A text without gaps at its ends and with one space for each gap within it. -/
def joinGaps (text : Text) : Text :=
  let rec go : Text → Text
    | [] => []
    | c :: rest =>
      if isGap c then
        if rest.head?.any isGap then go rest else ' ' :: go rest
      else c :: go rest
  Text.trim (go text)

/-- The lines of a paragraph. -/
def lines (limit : Nat) (text : Text) : List Text :=
  let text := joinGaps text
  fillLines limit (2 * text.length + 2) false (pieces text.length [] text)

end LuaMarkup.Command.Paragraph
