import Vigil.Checker.Http
import Vigil.Checker.Port
import Vigil.Checker.Ssh

/-!
Checks of every kind, ready to run.
-/

namespace Vigil

open Vigil.Clock Vigil.Checker

/-- A check that is ready to run. -/
inductive Checker where
  | http (c : HttpCheck)
  | port (c : PortCheck)
  | ssh (c : SshCheck)
  /-- A check whose answers are laid down in advance. -/
  | rehearsed (timeout : Duration)
deriving DecidableEq, Repr

namespace Checker

instance : Inhabited Checker := ⟨rehearsed default⟩

def timeout : Checker → Duration
  | http c => c.timeout
  | port c => c.timeout
  | ssh c => c.timeout
  | rehearsed t => t

def notConnected (c : Checker) (cause : Diagnosis) : CheckFailure :=
  match c with
  | http c => c.notConnected cause
  | _ => .connection cause

end Checker

end Vigil
