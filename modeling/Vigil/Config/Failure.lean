import Vigil.Diagnosis

/-!
Why there is no usable configuration.
-/

namespace Vigil

/-- Why there is no usable configuration. -/
inductive ConfigFailure where
  /-- There is no directory to look for a configuration in. -/
  | noDirectory
  | unreadable (path : String) (cause : Diagnosis)
  | unwritable (path : String) (cause : Diagnosis)
  /-- The file is no TOML, or holds no settings. -/
  | malformed (path : String) (cause : Diagnosis)
  /-- The settings cannot be written down. -/
  | unwritten (cause : Diagnosis)
  | invalid (setting reason : String)
deriving DecidableEq, Repr

namespace ConfigFailure

def message : ConfigFailure → String
  | noDirectory => "could not determine a configuration directory"
  | unreadable path cause => "failed to read " ++ path ++ ": " ++ cause.text
  | unwritable path cause => "failed to write " ++ path ++ ": " ++ cause.text
  | malformed path cause => "failed to parse " ++ path ++ ": " ++ cause.text
  | unwritten cause => "failed to serialize configuration: " ++ cause.text
  | invalid setting reason => "invalid setting " ++ setting ++ ": " ++ reason

def diagnosis (f : ConfigFailure) : Diagnosis :=
  match f with
  | unreadable _ cause | unwritable _ cause | malformed _ cause | unwritten cause =>
    .caused f.message cause
  | _ => .ofText f.message

end ConfigFailure

end Vigil
