import Vigil.Checker.Registry
import Vigil.Program.Start
import Vigil.Store.Gateway

/-!
The command line. What is asked for is decided by `Program.Request`; here the answer is printed and
the file with settings is read from the disk. No datastore is linked into this program, so a start
with valid settings ends with the failure to open one.
-/

namespace Vigil.Program

def failureText : IO.Error → String
  | .noFileOrDirectory _ code text | .permissionDenied _ code text
  | .inappropriateType _ code text | .alreadyExists _ code text =>
    text ++ " (os error " ++ toString code ++ ")"
  | e => toString e

/-- Make a file with the default settings, and the directories above it. -/
def writeDefaults (path : String) : IO (Except StartFailure Config) := do
  try
    if let some above := Path.parent? path then IO.FS.createDirAll above
    IO.FS.writeFile path (default : Config).document
    return .ok default
  catch e => return .error (.config (.unwritable path (.ofText (failureText e))))

/-- The settings in a file on the disk, which is made if it is missing. -/
def readSettings (path : String) : IO (Except StartFailure Config) := do
  try
    return (Config.parse path (← IO.FS.readFile path)).mapError .config
  catch
    | .noFileOrDirectory .. => writeDefaults path
    | e => return .error (.config (.unreadable path (.ofText (failureText e))))

def settingsOnDisk (o : Options) : IO (Except StartFailure Config) := do
  let around : Config.Surroundings := ⟨← IO.getEnv "XDG_CONFIG_HOME", ← IO.getEnv "HOME"⟩
  match Config.pathFor around o.config with
  | .error f => return .error (.config f)
  | .ok path => return (← readSettings path).bind o.settle

def answer (text : String) : IO UInt32 := do
  IO.print text
  return 0

def fail (f : StartFailure) : IO UInt32 := do
  IO.eprint f.line
  return 1

def perform : Request → IO UInt32
  | .help => answer helpText
  | .version => answer versionText
  | .wrong => do
    IO.eprint usageText
    return 2
  | .start o => do
    if o.listCheckers then answer Checker.Registry.builtin.listing
    else match ← settingsOnDisk o with
      | .error f => fail f
      | .ok c => fail (.store c.database.path (Store.Gateway.unopened c.database.path))

end Vigil.Program

def main (arguments : List String) : IO UInt32 :=
  Vigil.Program.perform (Vigil.Program.Request.ofArguments arguments)
