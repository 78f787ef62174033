import LuaMarkup.Selector.Basic
import LuaMarkup.Selector.Token

/-!
The notation of selectors.
-/

namespace LuaMarkup.Selector.Reader

def skipSpace : List Component → List Component
  | .token .space :: rest => skipSpace rest
  | components => components

/-! Numbers of siblings -/

/-- The number that a text of digits stands for. -/
def digits? (text : Text) : Option Int :=
  if !text.isEmpty && text.all Char.isDigit then
    some (text.foldl (fun n c => 10 * n + Html.Reference.digitValue c) (0 : Nat))
  else none

/-- The start of a series after its step, with what follows. -/
def seriesStart? (components : List Component) : Option (Int × List Component) :=
  match skipSpace components with
  | .token (.number value true) :: rest => value.map (·, rest)
  | .token (.mark '+') :: rest =>
    match skipSpace rest with
    | .token (.number value false) :: rest => value.map (·, rest)
    | _ => none
  | .token (.mark '-') :: rest =>
    match skipSpace rest with
    | .token (.number value false) :: rest => value.map (-·, rest)
    | _ => none
  | _ => some (0, components)

/-- A series from the letter after its step on: `n`, `n-`, or `n-` and digits. -/
def seriesFrom? (step : Int) (letters : Text) (rest : List Component) :
    Option (Series × List Component) :=
  match Text.lowerAscii letters with
  | ['n'] => (seriesStart? rest).map fun (start, rest) => (⟨step, start⟩, rest)
  | ['n', '-'] =>
    match skipSpace rest with
    | .token (.number value false) :: rest => value.map fun size => (⟨step, -size⟩, rest)
    | _ => none
  | 'n' :: '-' :: digits => (digits? digits).map fun size => (⟨step, -size⟩, rest)
  | _ => none

def series? (components : List Component) : Option (Series × List Component) :=
  match skipSpace components with
  | .token (.number value _) :: rest => value.map fun start => (⟨0, start⟩, rest)
  | .token (.dimension value _ unit) :: rest => value.bind (seriesFrom? · unit rest)
  | .token (.mark '+') :: .token (.identifier name) :: rest => seriesFrom? 1 name rest
  | .token (.identifier name) :: rest =>
    match String.ofList (Text.lowerAscii name) with
    | "odd" => some (⟨2, 1⟩, rest)
    | "even" => some (⟨2, 0⟩, rest)
    | _ =>
      match name with
      | '-' :: letters => seriesFrom? (-1) letters rest
      | _ => seriesFrom? 1 name rest
  | _ => none

/-! Attributes -/

/-- A name, with or without a namespace before it. Namespaces make no difference. -/
def attributeName? : List Component → Option (Text × List Component)
  | .token (.identifier _) :: .token (.mark '|') :: .token (.identifier name) :: rest =>
    some (name, rest)
  | .token (.mark '*') :: .token (.mark '|') :: .token (.identifier name) :: rest =>
    some (name, rest)
  | .token (.mark '|') :: .token (.identifier name) :: rest => some (name, rest)
  | .token (.identifier name) :: rest => some (name, rest)
  | _ => none

def test? : List Component → Option (AttributeTest × List Component)
  | .token (.mark '=') :: rest => some (.equal, rest)
  | .token (.mark c) :: .token (.mark '=') :: rest =>
    match c with
    | '~' => some (.word, rest)
    | '|' => some (.language, rest)
    | '^' => some (.start, rest)
    | '$' => some (.ending, rest)
    | '*' => some (.part, rest)
    | _ => none
  | _ => none

def value? : List Component → Option (Text × List Component)
  | .token (.identifier name) :: rest => some (name, rest)
  | .token (.quoted content) :: rest => some (content, rest)
  | _ => none

/-- What ends an attribute selector. -/
def letterCase? (components : List Component) : Option LetterCase :=
  match skipSpace components with
  | [] => some .usual
  | .token (.identifier name) :: rest =>
    if !(skipSpace rest).isEmpty then none
    else
      match Text.lowerAscii name with
      | ['i'] => some .ignored
      | ['s'] => some .exact
      | _ => none
  | _ => none

/-- What stands in the brackets of an attribute selector. -/
def attribute? (components : List Component) : Option Simple := do
  let (name, rest) ← attributeName? (skipSpace components)
  let name := Html.Token.lowerName name
  match skipSpace rest with
  | [] => some (.attribute name .present [] .exact)
  | rest =>
    let (test, rest) ← test? rest
    let (value, rest) ← value? (skipSpace rest)
    return .attribute name test value (← letterCase? rest)

/-! States and functions -/

def everyElement : List Complex := [⟨[.any], []⟩]

def atEdge (side : Side) : Simple := .nthChild side ⟨0, 1⟩ everyElement

def atEdgeOfType (side : Side) : Simple := .nthOfType side ⟨0, 1⟩

/-- What a word after a colon asks for. -/
def state? (name : String) : Option Compound :=
  match name with
  | "active" => some [.state .active]
  | "any-link" => some [.state .link]
  | "blank" => some [.state .blank]
  | "checked" => some [.state .checked]
  | "disabled" => some [.state .disabled]
  | "empty" => some [.state .empty]
  | "enabled" => some [.state .enabled]
  | "first-child" => some [atEdge .first]
  | "first-of-type" => some [atEdgeOfType .first]
  | "focus" => some [.state .focus]
  | "hover" => some [.state .hover]
  | "last-child" => some [atEdge .last]
  | "last-of-type" => some [atEdgeOfType .last]
  | "link" => some [.state .link]
  | "only-child" => some [atEdge .first, atEdge .last]
  | "only-of-type" => some [atEdgeOfType .first, atEdgeOfType .last]
  | "optional" => some [.state .optional]
  | "placeholder-shown" => some [.state .placeholderShown]
  | "read-only" => some [.state .readOnly]
  | "read-write" => some [.state .readWrite]
  | "required" => some [.state .required]
  | "root" => some [.state .root]
  | _ => none

/-- The readers of selectors that stand in other ones. -/
structure Inner where
  complex? : List Component → Option Complex
  chain? : List Component → Option (List Link)

/-- A series, and the siblings among which it counts if they are given. -/
def nthChild? (inner : Inner) (side : Side) (arguments : List (List Component)) :
    Option Simple := do
  let (series, rest) ← series? (← arguments.head?)
  match skipSpace rest with
  | [] => if arguments.length = 1 then some (.nthChild side series everyElement) else none
  | .token (.identifier word) :: rest =>
    if Text.lowerAscii word = ['o', 'f'] then
      return .nthChild side series (← (rest :: arguments.drop 1).mapM inner.complex?)
    else none
  | _ => none

/-- A series by itself. -/
def onlySeries? : List (List Component) → Option Series
  | [components] => do
    let (series, rest) ← series? components
    if (skipSpace rest).isEmpty then some series else none
  | _ => none

/-- A text, and whether its letters may be in either case. -/
def contains? : List (List Component) → Option Simple
  | [components] => do
    match skipSpace components with
    | .token (.quoted part) :: rest =>
      match ← letterCase? rest with
      | .usual => some (.contains part false)
      | .ignored => some (.contains part true)
      | .exact => none
    | _ => none
  | _ => none

/-- What a function after a colon asks for. Of some lists only what can be read counts. -/
def function? (inner : Inner) (name : String) (arguments : List (List Component)) :
    Option Simple :=
  match name with
  | "has" => some (.has (arguments.filterMap inner.chain?))
  | "is" => some (.is (arguments.filterMap inner.complex?))
  | "lexbor-contains" => contains? arguments
  | "not" => (arguments.mapM inner.complex?).map .not
  | "nth-child" => nthChild? inner .first arguments
  | "nth-col" => (onlySeries? arguments).map fun _ => .is []
  | "nth-last-child" => nthChild? inner .last arguments
  | "nth-last-col" => (onlySeries? arguments).map fun _ => .is []
  | "nth-last-of-type" => (onlySeries? arguments).map (.nthOfType .last)
  | "nth-of-type" => (onlySeries? arguments).map (.nthOfType .first)
  | "where" => some (.is (arguments.filterMap inner.complex?))
  | _ => none

/-! Compounds and chains -/

def localName? : List Component → Option (Simple × List Component)
  | .token (.identifier name) :: rest => some (.type (String.ofList name), rest)
  | .token (.mark '*') :: rest => some (.any, rest)
  | _ => none

/-- The name of a type, with or without a namespace before it. Namespaces make no difference. -/
def typeName? (components : List Component) : Option (Simple × List Component) :=
  match components with
  | .token (.mark '|') :: rest => localName? rest
  | _ =>
    match localName? components with
    | some (type, .token (.mark '|') :: rest) =>
      match localName? rest with
      | some found => some found
      | none => some (type, .token (.mark '|') :: rest)
    | found => found

/-- A part of a compound selector that components start with. -/
def part? (inner : Inner) (components : List Component) :
    Option (Compound × List Component) :=
  match components with
  | .token (.mark '.') :: .token (.identifier name) :: rest => some ([.class name], rest)
  | .token (.hash name) :: rest => some ([.id name], rest)
  | .bracketed [content] :: rest => (attribute? content).map fun simple => ([simple], rest)
  | .token (.mark ':') :: .token (.identifier name) :: rest =>
    (state? (Html.Token.lowerName name)).map (·, rest)
  | .token (.mark ':') :: .function name arguments :: rest =>
    (function? inner (Html.Token.lowerName name) arguments).map fun simple => ([simple], rest)
  | _ => (typeName? components).map fun (simple, rest) => ([simple], rest)

/-- The parts that components start with, as many as there are. -/
def parts (inner : Inner) : (fuel : Nat) → List Component → Compound × List Component
  | 0, components => ([], components)
  | fuel + 1, components =>
    match part? inner components with
    | some (first, rest) =>
      let (others, rest) := parts inner fuel rest
      (first ++ others, rest)
    | none => ([], components)

def compound? (inner : Inner) (components : List Component) :
    Option (Compound × List Component) :=
  let (compound, rest) := parts inner components.length components
  if compound.isEmpty then none else some (compound, rest)

def combinator? : List Component → Option (Combinator × List Component)
  | .token (.mark '>') :: rest => some (.child, rest)
  | .token (.mark '+') :: rest => some (.next, rest)
  | .token (.mark '~') :: rest => some (.later, rest)
  | .token (.mark '|') :: .token (.mark '|') :: rest => some (.column, rest)
  | _ => none

/-- The links after a compound selector, up to the end. Blanks alone lead to descendants. -/
def links? (inner : Inner) : (fuel : Nat) → List Component → Option (List Link)
  | 0, components => if components.isEmpty then some [] else none
  | fuel + 1, components =>
    let tail := skipSpace components
    if tail.isEmpty then some []
    else do
      let (combinator, rest) ←
        match combinator? tail with
        | some found => some found
        | none =>
          if tail.length < components.length then some (.descendant, tail) else none
      let (compound, rest) ← compound? inner (skipSpace rest)
      return ⟨combinator, compound⟩ :: (← links? inner fuel rest)

def complex? (inner : Inner) (components : List Component) : Option Complex := do
  let (compound, rest) ← compound? inner (skipSpace components)
  let links ← links? inner rest.length rest
  return Complex.extend ⟨compound, []⟩ links

/-- A chain of links from an element. The first leads to descendants if nothing else is said. -/
def chain? (inner : Inner) (components : List Component) : Option (List Link) := do
  let (combinator, rest) :=
    (combinator? (skipSpace components)).getD (.descendant, skipSpace components)
  let (compound, rest) ← compound? inner (skipSpace rest)
  return ⟨combinator, compound⟩ :: (← links? inner rest.length rest)

/-- The readers of selectors in which others stand no deeper than `depth`. -/
def nested : (depth : Nat) → Inner
  | 0 => { complex? := fun _ => none, chain? := fun _ => none }
  | depth + 1 => { complex? := complex? (nested depth), chain? := chain? (nested depth) }

end Reader

/-- Reads a selector list. -/
def parse? (text : Text) : Option Selector :=
  let tokens := Token.ofText text
  (Component.ofTokens tokens).mapM (Reader.nested (tokens.length + 1)).complex?

end LuaMarkup.Selector
