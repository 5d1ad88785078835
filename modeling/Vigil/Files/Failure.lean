import Vigil.Diagnosis

/-!
Why the file system refused something.
-/

namespace Vigil

/-- Why the file system refused something. -/
inductive FileFailure where
  | missing
  | taken
  | notDirectory
  | isDirectory
  | notEmpty
  /-- A directory would come to lie below itself. -/
  | intoItself
  /-- What stands in the file is no text. -/
  | notText
deriving DecidableEq, Repr

namespace FileFailure

def message : FileFailure → String
  | missing => "No such file or directory (os error 2)"
  | taken => "File exists (os error 17)"
  | notDirectory => "Not a directory (os error 20)"
  | isDirectory => "Is a directory (os error 21)"
  | notEmpty => "Directory not empty (os error 39)"
  | intoItself => "Invalid argument (os error 22)"
  | notText => "stream did not contain valid UTF-8"

def diagnosis (f : FileFailure) : Diagnosis := .ofText f.message

end FileFailure

end Vigil
