import Vigil.Diagnosis
import Vigil.Text.Digits

/-!
Why the program cannot run as a daemon.
-/

namespace Vigil

/-- Why the program cannot run as a daemon. -/
inductive DaemonFailure where
  /-- Another process holds the lock. -/
  | alreadyRunning (pid : Option Nat)
  | pidFile (path : String) (cause : Diagnosis)
  | logFile (path : String) (cause : Diagnosis)
  /-- The process could not leave its terminal. -/
  | detaching (text : String)
  | signals (cause : Diagnosis)
deriving DecidableEq, Repr

namespace DaemonFailure

def message : DaemonFailure → String
  | alreadyRunning pid =>
    "servicemon is already running (pid: " ++ (pid.map Text.decimal).getD "unknown" ++ ")"
  | pidFile path cause => "pid file " ++ path ++ ": " ++ cause.text
  | logFile path cause => "failed to open log file " ++ path ++ ": " ++ cause.text
  | detaching text => "failed to daemonize: " ++ text
  | signals cause => "failed to install signal handler: " ++ cause.text

def diagnosis (f : DaemonFailure) : Diagnosis :=
  match f with
  | pidFile _ cause | logFile _ cause | signals cause => .caused f.message cause
  | _ => .ofText f.message

end DaemonFailure

end Vigil
