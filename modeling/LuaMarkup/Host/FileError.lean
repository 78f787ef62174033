import LuaMarkup.FilePath
import LuaMarkup.Text.Quoted

/-!
Why a file cannot be used.
-/

namespace LuaMarkup

inductive Refusal where
  | noSuchFile
  | fileExists
  | notADirectory
  | isADirectory
  | nameTooLong
  | other (code : Nat) (text : String)
deriving DecidableEq, Repr

namespace Refusal

def code : Refusal → Nat
  | .noSuchFile => 2
  | .fileExists => 17
  | .notADirectory => 20
  | .isADirectory => 21
  | .nameTooLong => 36
  | .other code _ => code

def text : Refusal → String
  | .noSuchFile => "No such file or directory"
  | .fileExists => "File exists"
  | .notADirectory => "Not a directory"
  | .isADirectory => "Is a directory"
  | .nameTooLong => "File name too long"
  | .other _ text => text

def message (refusal : Refusal) : Text := s!"[Errno {refusal.code}] {refusal.text}".toList

end Refusal

inductive FileError where
  | refused (refusal : Refusal) (path : FilePath)
  /-- The system breaks off where no path is named any more. -/
  | broken (refusal : Refusal)
  /-- The path has a character of code zero, which ends a path for the system. -/
  | zeroInPath
deriving DecidableEq, Repr

namespace FileError

def message : FileError → Text
  | .refused refusal path => refusal.message ++ ": ".toList ++ Text.quoted path.toText
  | .broken refusal => refusal.message
  | .zeroInPath => "embedded null byte".toList

/-- Whether there is no file, or no directory for it. -/
def isMissing : FileError → Bool
  | .refused refusal _ | .broken refusal => refusal == .noSuchFile
  | .zeroInPath => false

end FileError

end LuaMarkup
