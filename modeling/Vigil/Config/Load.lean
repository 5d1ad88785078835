import Vigil.Config.Document
import Vigil.Files.Basic

/-!
Where settings are kept. If there is no file with settings, one with the defaults is made.
-/

namespace Vigil.Config

/-- What the environment tells of directories. -/
structure Surroundings where
  /-- The directory of all configurations. -/
  configHome : Option String
  /-- The home directory. -/
  home : Option String
deriving DecidableEq, Repr, Inhabited

/-- The path of the file with settings: its name always ends in `.toml`. -/
def filePath (path : String) : String :=
  if Path.ending? path == some "toml" then path else Path.withEnding path "toml"

/-- The path of the file with settings if none is given. -/
def standardPath (s : Surroundings) : Except ConfigFailure String :=
  match s.configHome, s.home with
  | some directory, _ => .ok (Path.join directory "servicemon/config.toml")
  | none, some home => .ok (Path.join (Path.join home ".config") "servicemon/config.toml")
  | none, none => .error .noDirectory

/-- The path of the file with settings, which may be given. -/
def pathFor (s : Surroundings) (given : Option String) : Except ConfigFailure String :=
  match given with
  | some path => .ok (filePath path)
  | none => standardPath s

/-- Write settings into a file, and make the directories above it. -/
def save (c : Config) (fs : Files) (path : String) : Except ConfigFailure Files := do
  let fs ← match Path.parent? path with
    | none => pure fs
    | some above => (fs.ensureDirectory above).mapError fun f => .unwritable above f.diagnosis
  (fs.write path (Files.encode c.document)).mapError fun f => .unwritable path f.diagnosis

/-- The directories that stay behind even if settings could not be written. -/
def saveIn (c : Config) (fs : Files) (path : String) : Except ConfigFailure Unit × Files :=
  match c.save fs path with
  | .ok fs => (.ok (), fs)
  | .error f =>
    (.error f, ((Path.parent? path).bind fun above => (fs.ensureDirectory above).toOption).getD fs)

def parse (path text : String) : Except ConfigFailure Config :=
  match read? text with
  | some c => .ok c
  | none => .error (.malformed path (.ofText "TOML parse error"))

/-- The settings in a file, or the defaults, which are then written into it. -/
def load (s : Surroundings) (given : Option String) (fs : Files) :
    Except ConfigFailure Config × Files :=
  match pathFor s given with
  | .error f => (.error f, fs)
  | .ok path =>
    if fs.exists? path then
      match fs.readText path with
      | .error f => (.error (.unreadable path f.diagnosis), fs)
      | .ok text => (parse path text, fs)
    else
      match (default : Config).saveIn fs path with
      | (.ok (), fs) => (.ok default, fs)
      | (.error f, fs) => (.error f, fs)

end Vigil.Config
