import Vigil.Checker.Argument
import Vigil.Daemon.Failure
import Vigil.Files.Basic

/-!
The file by which only one program runs at a time. Whoever runs holds a lock on it, writes the
number of its process into it, and removes it in the end.
-/

namespace Vigil

structure PidLock where
  path : String
  /-- The file that is locked. -/
  file : Nat
deriving DecidableEq, Repr

namespace PidLock

/-- The number of a process in a text: up to 32 bits, with blanks around it and perhaps a plus. -/
def readPid? (s : String) : Option Nat :=
  let l := (Text.trimmed s).toList
  let digits := match l with
    | '+' :: rest => rest
    | _ => l
  let n := Text.decimalValue digits
  if !digits.isEmpty && digits.all Text.isDigit && n < Nat.pow 2 32 then some n else none

/-- The number of the process that holds a lock, as far as the path tells. -/
def runningPid? (fs : Files) (path : String) : Option Nat :=
  (fs.readText path).toOption.bind readPid?

def openFile (fs : Files) (path : String) : Except DaemonFailure (Nat × Files) :=
  (fs.openOrCreate path).mapError fun f => .pidFile path f.diagnosis

/-- Lock a file that has been opened, unless someone else has locked it. -/
def tryLock (fs : Files) (path : String) (file : Nat) : Except DaemonFailure (PidLock × Files) :=
  if fs.isLocked file then .error (.alreadyRunning (runningPid? fs path))
  else .ok (⟨path, file⟩, fs.lock file)

/-- Open the file, make it if it is missing, and lock it. -/
def acquire (fs : Files) (path : String) : Except DaemonFailure PidLock × Files :=
  match openFile fs path with
  | .error f => (.error f, fs)
  | .ok (file, fs) =>
    match tryLock fs path file with
    | .error f => (.error f, fs)
    | .ok (lock, fs) => (.ok lock, fs)

def writePid (l : PidLock) (fs : Files) (pid : Nat) : Files :=
  fs.setContent l.file (Files.encode (Text.decimal pid ++ "\n"))

/-- Remove whatever file is at the path. -/
def unlink (l : PidLock) (fs : Files) : Files := (fs.remove l.path).toOption.getD fs

def unlock (l : PidLock) (fs : Files) : Files := fs.unlock l.file

/-- Remove whatever file is at the path, and let go of the lock. -/
def release (l : PidLock) (fs : Files) : Files := l.unlock (l.unlink fs)

end PidLock

end Vigil
