import LuaMarkup.Text.Quoted

/-!
The categories of classified source text and the markup that styles them.
-/

namespace LuaMarkup

inductive Category where
  | escape
  | string
  | comment
  | operator
  | keyword
deriving DecidableEq, Repr

/-- No category has this name. -/
structure UnknownCategory where
  name : Text
deriving DecidableEq, Repr

def UnknownCategory.message (e : UnknownCategory) : Text :=
  Text.quoted e.name ++ " is not a valid Category".toList

namespace Category

def all : List Category := [.escape, .string, .comment, .operator, .keyword]

def name : Category → String
  | .escape => "escape"
  | .string => "string"
  | .comment => "comment"
  | .operator => "operator"
  | .keyword => "keyword"

def ofName? (name : String) : Option Category :=
  all.find? (·.name == name)

theorem ofName?_name (category : Category) : ofName? category.name = some category := by
  cases category <;> decide

def openTag (category : Category) : Text :=
  "<span class=\"".toList ++ category.name.toList ++ "\">".toList

def closeTag : Text := "</span>".toList

/-- The styling span of the category around `content`. -/
def wrap (category : Category) (content : Text) : Text :=
  category.openTag ++ content ++ closeTag

end Category
end LuaMarkup
