import Vigil.Files.Basic

/-!
A file to which lines are added. It can be opened again under its path, so that the old file can be
moved away.
-/

namespace Vigil

structure LogFile where
  path : String
  /-- The file to which is written. -/
  file : Nat
deriving DecidableEq, Repr

namespace LogFile

def «open» (fs : Files) (path : String) : Except FileFailure (LogFile × Files) := do
  let (file, fs) ← fs.openOrCreate path
  return (⟨path, file⟩, fs)

def write (l : LogFile) (fs : Files) (bytes : List UInt8) : Files := fs.append l.file bytes

/-- Open the path again. If that fails, the old file stays open. -/
def reopen (l : LogFile) (fs : Files) : Except FileFailure (LogFile × Files) :=
  LogFile.open fs l.path

end LogFile

end Vigil
