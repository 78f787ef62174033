import LuaMarkup.Selector.Basic

/-!
Which elements of a page a selector matches.
-/

namespace LuaMarkup

/-- The words of an attribute value. -/
def words (value : Text) : List Text :=
  (value.foldr (fun c parts =>
    if Text.isMarkupSpace c then [] :: parts
    else
      match parts with
      | part :: rest => (c :: part) :: rest
      | [] => [[c]]) [[]]).filter (!·.isEmpty)

def AttributeTest.holds (test : AttributeTest) (wanted value : Text) : Bool :=
  match test with
  | .present => true
  | .equal => value == wanted
  | .word => (words value).contains wanted
  | .language => value == wanted || (wanted ++ ['-']).isPrefixOf value
  | .start => !wanted.isEmpty && wanted.isPrefixOf value
  | .ending => !wanted.isEmpty && wanted.isSuffixOf value
  | .part => !wanted.isEmpty && Text.hasPart wanted value

/-- The attributes of pages whose values count in either case. -/
def caselessAttributes : List String :=
  ["accept", "accept-charset", "align", "alink", "axis", "bgcolor", "charset", "checked", "clear",
    "codetype", "color", "compact", "declare", "defer", "dir", "direction", "disabled", "enctype",
    "face", "frame", "hreflang", "http-equiv", "lang", "language", "link", "media", "method",
    "multiple", "nohref", "noresize", "noshade", "nowrap", "readonly", "rel", "rev", "rules",
    "scope", "scrolling", "selected", "shape", "target", "text", "type", "valign", "valuetype",
    "vlink"]

def LetterCase.isIgnored (letters : LetterCase) (space : Html.Namespace) (name : String) : Bool :=
  match letters with
  | .usual => space == .html && caselessAttributes.contains name
  | .ignored => true
  | .exact => false

/-- Whether two names agree; on old pages in any ASCII case. -/
def sameName (old : Bool) (a b : Text) : Bool :=
  if old then Text.lowerAscii a == Text.lowerAscii b else a == b

namespace State

def isAnyOf (names : List String) (node : Html.Node) : Bool :=
  ((Standing.tag? node).map fun tag => names.contains tag.name).getD false

def hasAttribute (name : String) (node : Html.Node) : Bool :=
  node.attributes.any (·.name == name)

def isEmptyNode : Html.Node → Bool
  | .text content => content.isEmpty
  | .comment _ => true
  | _ => false

def isBlankNode : Html.Node → Bool
  | .text content => content.all Text.isMarkupSpace
  | .comment _ => true
  | _ => false

/-- Kinds of input that can be checked. -/
def isCheckable (node : Html.Node) : Bool :=
  match Html.Attribute.get? "type" node.attributes with
  | some kind => ["checkbox", "radio"].contains (Html.Token.lowerName kind)
  | none => false

def isChecked (node : Html.Node) : Bool :=
  if isAnyOf ["input", "menuitem"] node then isCheckable node && hasAttribute "checked" node
  else isAnyOf ["option"] node && hasAttribute "selected" node

/-- An element is disabled by itself or by a set of fields around it. -/
def isDisabled (node : Html.Node) (around : Lineage) : Bool :=
  (isAnyOf ["button", "input", "select", "textarea"] node && hasAttribute "disabled" node) ||
    around.any fun s => isAnyOf ["fieldset"] s.node && hasAttribute "disabled" s.node

def isWritable (node : Html.Node) (around : Lineage) : Bool :=
  if isAnyOf ["input", "textarea"] node then
    !hasAttribute "readonly" node && !isDisabled node around
  else hasAttribute "contenteditable" node

def isField (node : Html.Node) : Bool := isAnyOf ["input", "select", "textarea"] node

def holds (state : State) (node : Html.Node) (around : Lineage) : Bool :=
  match state with
  | .active => hasAttribute "active" node
  | .blank => node.children.all isBlankNode
  | .checked => isChecked node
  | .disabled => isDisabled node around
  | .empty => node.children.all isEmptyNode
  | .enabled => !isDisabled node around
  | .focus => hasAttribute "focus" node
  | .hover => hasAttribute "hover" node
  | .link => isAnyOf ["a", "area", "map"] node && hasAttribute "href" node
  | .optional => isField node && !hasAttribute "required" node
  | .placeholderShown => isAnyOf ["input", "textarea"] node && hasAttribute "placeholder" node
  | .readOnly => !isWritable node around
  | .readWrite => isWritable node around
  | .required => isField node && hasAttribute "required" node
  | .root => around.isEmpty

end State

/-- Whether an element directly holds a text with that part. -/
def holdsText (part : Text) (anyCase : Bool) (node : Html.Node) : Bool :=
  node.children.any fun child =>
    match child with
    | .text content =>
      if anyCase then Text.hasPart (Text.lowerAscii part) (Text.lowerAscii content)
      else Text.hasPart part content
    | _ => false

/-- Whether an element has an attribute that passes a test. -/
def attributeHolds (name : String) (test : AttributeTest) (wanted : Text) (letters : LetterCase)
    (node : Html.Node) : Bool :=
  match node.attributes.find? fun a => Html.Token.lowerName a.name.toList == name with
  | some a =>
    let value := a.value.getD []
    let space := ((Standing.tag? node).map (·.space)).getD .html
    if letters.isIgnored space name then
      test.holds (Text.lowerAscii wanted) (Text.lowerAscii value)
    else test.holds wanted value
  | none => false

mutual
def Simple.holds (old : Bool) : Simple → Lineage → Bool
  | _, [] => false
  | .any, _ => true
  | .type name, s :: _ =>
    match Standing.tag? s.node with
    | some tag => Html.Token.lowerName tag.name.toList == Html.Token.lowerName name.toList
    | none => false
  | .class name, s :: _ =>
    (((Html.Attribute.get? "class" s.node.attributes).map words).getD []).any (sameName old name)
  | .id name, s :: _ =>
    ((Html.Attribute.get? "id" s.node.attributes).map (sameName old name)).getD false
  | .attribute name test wanted letters, s :: _ => attributeHolds name test wanted letters s.node
  | .state state, s :: around => state.holds s.node around
  | .contains part anyCase, s :: _ => holdsText part anyCase s.node
  | .nthChild side series among, s :: around =>
    Complex.anyHolds old among (s :: around) &&
      series.contains
        ((Lineage.onSide side (s :: around)).countP (Complex.anyHolds old among) + 1)
  | .nthOfType side series, s :: _ =>
    series.contains ((s.onSide side).countP (Standing.sameTag s) + 1)
  | .is choices, lineage => Complex.anyHolds old choices lineage
  | .not choices, lineage => !Complex.anyHolds old choices lineage
  | .has chains, lineage => Link.anyReaches old chains lineage

def Compound.holds (old : Bool) : List Simple → Lineage → Bool
  | [], _ => true
  | simple :: others, lineage => simple.holds old lineage && Compound.holds old others lineage

def Complex.holds (old : Bool) : Complex → Lineage → Bool
  | ⟨subject, context⟩, lineage =>
    Compound.holds old subject lineage && Link.contextHolds old context lineage

def Complex.anyHolds (old : Bool) : List Complex → Lineage → Bool
  | [], _ => false
  | complex :: others, lineage => complex.holds old lineage || Complex.anyHolds old others lineage

/-- Whether links lead from an element to the left. -/
def Link.contextHolds (old : Bool) : List Link → Lineage → Bool
  | [], _ => true
  | ⟨combinator, compound⟩ :: others, lineage =>
    (combinator.left lineage).any fun other =>
      Compound.holds old compound other && Link.contextHolds old others other

/-- Whether links lead from an element to the right. -/
def Link.reaches (old : Bool) : List Link → Lineage → Bool
  | [], _ => true
  | ⟨combinator, compound⟩ :: others, lineage =>
    (combinator.right lineage).any fun other =>
      Compound.holds old compound other && Link.reaches old others other

def Link.anyReaches (old : Bool) : List (List Link) → Lineage → Bool
  | [], _ => false
  | chain :: others, lineage => Link.reaches old chain lineage || Link.anyReaches old others lineage
end

/-- How many selectors of the list an element matches. -/
def Selector.count (old : Bool) (selector : Selector) (lineage : Lineage) : Nat :=
  selector.countP (·.holds old lineage)

namespace Selector

mutual
/-- The path of an element as often as `count` says, then those of the elements in it. -/
def pathsOf (count : Lineage → Nat) (lineage : Lineage) (path : Html.Node.Path) :
    Html.Node → List Html.Node.Path
  | .element _ _ children =>
    List.replicate (count lineage) path ++ pathsIn count lineage path [] 0 children
  | .template _ _ => List.replicate (count lineage) path
  | _ => []

def pathsIn (count : Lineage → Nat) (around : Lineage) (path : Html.Node.Path)
    (before : List Html.Node) (index : Nat) : List Html.Node → List Html.Node.Path
  | [] => []
  | node :: after =>
    pathsOf count (⟨node, before, after⟩ :: around) (path ++ [index]) node ++
      pathsIn count around path (node :: before) (index + 1) after
end

/-- The elements of a page that match, in document order; one that matches several selectors
of the list is listed as often. -/
def select (selector : Selector) (document : Html.Document) : List Html.Node.Path :=
  pathsIn (selector.count document.old) [] [] [] 0 document.nodes

end Selector
end LuaMarkup
