import Vigil.Checker.Argument
import Vigil.Checker.Kind
import Vigil.Net.Endpoint
import Vigil.Service.Verdict

/-!
Checks that a port takes connections.
-/

namespace Vigil.Checker

open Vigil.Clock Vigil.Net

structure PortCheck where
  endpoint : Endpoint
  timeout : Duration
deriving DecidableEq, Repr

namespace PortCheck

def kind : Kind :=
  ⟨"port", "Opens a TCP connection to the given port", true, 0, ["port"], [("timeout", "")]⟩

def ofService (s : Service) (default : Duration) : Except CheckFailure PortCheck := do
  let value ← match s.argument? "port" with
    | some value => .ok value
    | none => .error (.missingArgument "port")
  let port ← portArgument value
  let timeout ← timeoutOf s default
  return ⟨⟨s.address, port⟩, timeout⟩

def connected (c : PortCheck) : Verdict :=
  .up ("connected to port " ++ Text.decimal c.endpoint.port.toNat)

end PortCheck

end Vigil.Checker
