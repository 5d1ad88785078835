import Vigil.Config.Load
import Vigil.Daemon.LogFile
import Vigil.Daemon.PidLock
import Vigil.Program.Options
import Vigil.Store.Failure

/-!
The start of the program: settings, the lock, the log file, and what is told when one of them fails.
-/

namespace Vigil.Program

/-- Why the program could not start. -/
inductive StartFailure where
  | config (f : ConfigFailure)
  | daemon (f : DaemonFailure)
  /-- The datastore at a path could not be opened. -/
  | store (path : String) (f : StoreFailure)
deriving DecidableEq, Repr

def StartFailure.diagnosis : StartFailure → Diagnosis
  | config f => f.diagnosis
  | daemon f => f.diagnosis
  | store path f => .caused ("cannot open datastore " ++ path) f.diagnosis

def StartFailure.line (f : StartFailure) : String := name ++ ": " ++ f.diagnosis.fullLine ++ "\n"

structure Started where
  config : Config
  lock : PidLock
  /-- The log file, unless the program stays in the foreground. -/
  log : Option LogFile
deriving DecidableEq, Repr

/-- Settings with the options in place of them, if they are valid. -/
def Options.settle (o : Options) (c : Config) : Except StartFailure Config :=
  let c := match o.checkInterval with
    | some n => { c with monitor.checkInterval := n }
    | none => c
  match c.validate with
  | .error f => .error (.config f)
  | .ok () => .ok c

/-- The settings of a run: those of the file, with the options in place of them. -/
def settings (o : Options) (s : Config.Surroundings) (fs : Files) :
    Except StartFailure Config × Files :=
  match Config.load s o.config fs with
  | (.error f, fs) => (.error (.config f), fs)
  | (.ok c, fs) => (o.settle c, fs)

/-- Open the log file, unless the program stays in the foreground. -/
def openLog (o : Options) (c : Config) (fs : Files) :
    Except StartFailure (Option LogFile × Files) :=
  if o.foreground then .ok (none, fs)
  else match LogFile.open fs c.daemon.logFile with
    | .ok (l, fs) => .ok (some l, fs)
    | .error f => .error (.daemon (.logFile c.daemon.logFile f.diagnosis))

/-- Start the program: take its lock, open its log file and write down the number of its process. -/
def start (o : Options) (s : Config.Surroundings) (pid : Nat) (fs : Files) :
    Except StartFailure Started × Files :=
  match settings o s fs with
  | (.error f, fs) => (.error f, fs)
  | (.ok c, fs) =>
    match PidLock.acquire fs c.daemon.pidFile with
    | (.error f, fs) => (.error (.daemon f), fs)
    | (.ok lock, fs) =>
      match openLog o c fs with
      | .error f => (.error f, lock.release fs)
      | .ok (log, fs) => (.ok ⟨c, lock, log⟩, lock.writePid fs pid)

end Vigil.Program
