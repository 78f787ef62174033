import LuaMarkup.Console.PictureTable
import LuaMarkup.Text.Blank
import LuaMarkup.Text.Lower

/-!
Pictures in messages. A name between two colons stands for a picture.
-/

namespace LuaMarkup.Console

/-- How a name can end to ask for the form of a picture, and the mark that asks for it. -/
def pictureForms : List (Text × Char) :=
  [("-text".toList, '\ufe0e'), ("-emoji".toList, '\ufe0f')]

/-- The picture of what stands between two colons. -/
def pictureOf? (code : Text) : Option Text :=
  match pictureForms.find? fun (ending, _) => ending.isSuffixOf code with
  | some (ending, form) =>
    (Picture.find? (Text.lower (Text.dropEnd ending code))).map (· ++ [form])
  | none => Picture.find? (Text.lower code)

/-- A text with its pictures in place of their names. A colon that ends a name begins none. -/
def withPictures (text : Text) : Text :=
  match text with
  | [] => []
  | c :: rest =>
    let code := rest.takeWhile fun d => d != ':' && !Text.isBlank d
    if c = ':' ∧ (rest.drop code.length).head? = some ':' then
      (pictureOf? code).getD (':' :: code ++ [':']) ++
        withPictures (rest.drop (code.length + 1))
    else c :: withPictures rest
termination_by text.length
decreasing_by all_goals simp only [List.length_drop, List.length_cons]; omega

end LuaMarkup.Console
