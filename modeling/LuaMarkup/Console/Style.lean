import LuaMarkup.Decimal
import LuaMarkup.Text.Blank
import LuaMarkup.Text.Lower

/-!
The names of styles: words for attributes, for two colours and for a link. Names of one style
have one form, by which tags are compared.
-/

namespace LuaMarkup.Console

/-- The attributes of a style in the order in which they are named, each with its short name. -/
def attributeNames : List (String × List String) :=
  [("bold", ["b"]), ("dim", ["d"]), ("italic", ["i"]), ("underline", ["u"]), ("blink", []),
    ("blink2", []), ("reverse", ["r"]), ("conceal", ["c"]), ("strike", ["s"]),
    ("underline2", ["uu"]), ("frame", []), ("encircle", []), ("overline", ["o"])]

def attributeName? (word : Text) : Option String :=
  let word := String.ofList word
  (attributeNames.find? fun (name, short) => name == word || short.contains word).map (·.1)

def colourNames : List String :=
  ["black", "red", "green", "yellow", "blue", "magenta", "cyan", "white", "bright_black",
    "bright_red", "bright_green", "bright_yellow", "bright_blue", "bright_magenta", "bright_cyan",
    "bright_white", "grey0", "gray0", "navy_blue", "dark_blue", "blue3", "blue1", "dark_green",
    "deep_sky_blue4", "dodger_blue3", "dodger_blue2", "green4", "spring_green4", "turquoise4",
    "deep_sky_blue3", "dodger_blue1", "green3", "spring_green3", "dark_cyan", "light_sea_green",
    "deep_sky_blue2", "deep_sky_blue1", "spring_green2", "cyan3", "dark_turquoise", "turquoise2",
    "green1", "spring_green1", "medium_spring_green", "cyan2", "cyan1", "dark_red", "deep_pink4",
    "purple4", "purple3", "blue_violet", "orange4", "grey37", "gray37", "medium_purple4",
    "slate_blue3", "royal_blue1", "chartreuse4", "dark_sea_green4", "pale_turquoise4", "steel_blue",
    "steel_blue3", "cornflower_blue", "chartreuse3", "cadet_blue", "sky_blue3", "steel_blue1",
    "pale_green3", "sea_green3", "aquamarine3", "medium_turquoise", "chartreuse2", "sea_green2",
    "sea_green1", "aquamarine1", "dark_slate_gray2", "dark_magenta", "dark_violet", "purple",
    "light_pink4", "plum4", "medium_purple3", "slate_blue1", "yellow4", "wheat4", "grey53",
    "gray53", "light_slate_grey", "light_slate_gray", "medium_purple", "light_slate_blue",
    "dark_olive_green3", "dark_sea_green", "light_sky_blue3", "sky_blue2", "dark_sea_green3",
    "dark_slate_gray3", "sky_blue1", "chartreuse1", "light_green", "pale_green1",
    "dark_slate_gray1", "red3", "medium_violet_red", "magenta3", "dark_orange3", "indian_red",
    "hot_pink3", "medium_orchid3", "medium_orchid", "medium_purple2", "dark_goldenrod",
    "light_salmon3", "rosy_brown", "grey63", "gray63", "medium_purple1", "gold3", "dark_khaki",
    "navajo_white3", "grey69", "gray69", "light_steel_blue3", "light_steel_blue", "yellow3",
    "dark_sea_green2", "light_cyan3", "light_sky_blue1", "green_yellow", "dark_olive_green2",
    "dark_sea_green1", "pale_turquoise1", "deep_pink3", "magenta2", "hot_pink2", "orchid",
    "medium_orchid1", "orange3", "light_pink3", "pink3", "plum3", "violet", "light_goldenrod3",
    "tan", "misty_rose3", "thistle3", "plum2", "khaki3", "light_goldenrod2", "light_yellow3",
    "grey84", "gray84", "light_steel_blue1", "yellow2", "dark_olive_green1", "honeydew2",
    "light_cyan1", "red1", "deep_pink2", "deep_pink1", "magenta1", "orange_red1", "indian_red1",
    "hot_pink", "dark_orange", "salmon1", "light_coral", "pale_violet_red1", "orchid2", "orchid1",
    "orange1", "sandy_brown", "light_salmon1", "light_pink1", "pink1", "plum1", "gold1",
    "navajo_white1", "misty_rose1", "thistle1", "yellow1", "light_goldenrod1", "khaki1", "wheat1",
    "cornsilk1", "grey100", "gray100", "grey3", "gray3", "grey7", "gray7", "grey11", "gray11",
    "grey15", "gray15", "grey19", "gray19", "grey23", "gray23", "grey27", "gray27", "grey30",
    "gray30", "grey35", "gray35", "grey39", "gray39", "grey42", "gray42", "grey46", "gray46",
    "grey50", "gray50", "grey54", "gray54", "grey58", "gray58", "grey62", "gray62", "grey66",
    "gray66", "grey70", "gray70", "grey74", "gray74", "grey78", "gray78", "grey82", "gray82",
    "grey85", "gray85", "grey89", "gray89", "grey93", "gray93"]

/-- Why the parts of a colour cannot be read as numbers. -/
inductive NumeralFault where
  | empty
  | tooManyDigits (cause : TooManyDigits)
deriving DecidableEq, Repr

def NumeralFault.message : NumeralFault → String
  | .empty => "invalid literal for int() with base 10: ''"
  | .tooManyDigits cause => cause.message

namespace Colour

/-- The largest number of a colour, and of a part of one. -/
def maxPart : Nat := 255

def isHex (digits : Text) : Bool :=
  digits.length == 6 && digits.all fun c => c.isDigit || ('a' ≤ c && c ≤ 'f')

/-- What stands between an opening and the parenthesis at the end. -/
def enclosed? (opening : String) (word : Text) : Option Text :=
  match Text.after? opening.toList word with
  | some rest => if rest.getLast? = some ')' then some rest.dropLast else none
  | none => none

def part (digits : Text) : Except NumeralFault Nat :=
  if digits.isEmpty then .error .empty
  else (readNumeral digits).mapError .tooManyDigits

/-- Whether a word in lower case names a colour, by its name, its number or its three parts. -/
def isNamed (word : Text) : Except NumeralFault Bool := do
  if word = "default".toList ∨ colourNames.contains (String.ofList word) then return true
  else if word.head? = some '#' then return isHex (word.drop 1)
  else
    match enclosed? "color(" word, enclosed? "rgb(" word with
    | some digits, _ =>
      return !digits.isEmpty && digits.length ≤ 3 && digits.all Char.isDigit &&
        numeralValue digits ≤ maxPart
    | none, some numbers =>
      let parts := Text.pieces ',' numbers
      if numbers.isEmpty ∨ !numbers.all (fun c => isDecimalDigit c || c == ',') ∨
          parts.length ≠ 3 then return false
      else return (← parts.mapM part).all (· ≤ maxPart)
    | none, none => return false

end Colour

/-- What a style name says: attributes that are set or denied, two colours and a link. -/
structure Style where
  attributes : List (String × Bool) := []
  colour : Option Text := none
  background : Option Text := none
  link : Option Text := none
deriving DecidableEq, Repr

namespace Style

def set (style : Style) (name : String) (on : Bool) : Style :=
  { style with attributes := (name, on) :: style.attributes }

/-- The style that words name, if they name one. -/
def read? (style : Style) : List Text → Except NumeralFault (Option Style)
  | [] => .ok (some style)
  | word :: words =>
    let lower := Text.lower word
    if lower = "on".toList then
      match words with
      | colour :: words => do
        if ← Colour.isNamed (Text.lower colour) then
          read? { style with background := some (Text.lower colour) } words
        else return none
      | [] => .ok none
    else if lower = "not".toList then
      match words with
      | word :: words =>
        match attributeName? word with
        | some name => read? (style.set name false) words
        | none => .ok none
      | [] => .ok none
    else if lower = "link".toList then
      match words with
      | target :: words => read? { style with link := some target } words
      | [] => .ok none
    else
      match attributeName? lower with
      | some name => read? (style.set name true) words
      | none => do
        if ← Colour.isNamed lower then read? { style with colour := some lower } words
        else return none

def words (style : Style) : List Text :=
  (attributeNames.flatMap fun (name, _) =>
    match style.attributes.find? (·.1 == name) with
    | some (_, true) => [name.toList]
    | some (_, false) => ["not".toList, name.toList]
    | none => []) ++ style.colour.toList ++
    (style.background.toList.flatMap fun colour => ["on".toList, colour]) ++
    (style.link.toList.flatMap fun target => ["link".toList, target])

end Style

/-- The words of a text between its blanks. -/
def wordsOf (text : Text) : List Text :=
  text.foldr (fun c words =>
    if Text.isBlank c then [] :: words
    else
      match words with
      | word :: words => (c :: word) :: words
      | [] => [[c]]) [[]] |>.filter (· != [])

/-- The one form of the names of a style. A name that names no style is taken as it is, without
regard to case. -/
def normalise (name : Text) : Except NumeralFault Text := do
  let trimmed := Text.trim name
  if trimmed = "none".toList then return trimmed
  match ← Style.read? {} (wordsOf name) with
  | some style =>
    match style.words with
    | [] => return "none".toList
    | words => return List.intercalate [' '] words
  | none => return Text.lower trimmed

end LuaMarkup.Console
