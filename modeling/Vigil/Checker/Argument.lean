import Vigil.Checker.Failure
import Vigil.Decimal.Literal
import Vigil.Service.Basic
import Vigil.Text.Blank

/-!
Ports and timeouts as they are written in the arguments of a service.
-/

namespace Vigil.Checker

open Vigil.Clock Vigil.Decimal Vigil.Text

/-! ### Ports -/

inductive PortError where
  | notNumber (e : IntegerError)
  | zero
deriving DecidableEq, Repr

def PortError.message : PortError → String
  | notNumber e => e.message
  | zero => "port 0 is not valid"

/-- The port that a text names: a number from 1 to 65535, blanks around it aside. -/
def readPort (s : String) : Except PortError UInt16 :=
  match readBounded 65535 (trim s.toList) with
  | .error e => .error (.notNumber e)
  | .ok 0 => .error .zero
  | .ok n => .ok n.toUInt16

/-! ### Timeouts -/

/-- The longest timeout: a day. -/
def maxTimeoutSeconds : Nat := 86400

def maxTimeout : Duration := .ofSecs maxTimeoutSeconds

inductive TimeoutError where
  | notNumber (e : LiteralError)
  | notDuration (e : DurationError)
  | zero
  | tooLong
deriving DecidableEq, Repr

def TimeoutError.message : TimeoutError → String
  | notNumber e => e.message
  | notDuration e => e.message
  | zero => "must be a positive number of seconds"
  | tooLong => "must not exceed " ++ decimal maxTimeoutSeconds ++ " seconds"

/-- A number of seconds as a timeout: positive, and at most a day. -/
def timeoutOfSeconds (x : Binary64) : Except TimeoutError Duration :=
  match Duration.ofSeconds x with
  | .error e => .error (.notDuration e)
  | .ok d =>
    if d.nanos == 0 then .error .zero
    else if maxTimeout.nanos < d.nanos then .error .tooLong
    else .ok d

/-- The timeout that a text names, blanks around it aside. -/
def readTimeout (s : String) : Except TimeoutError Duration :=
  match readLiteral (trim s.toList) with
  | .error e => .error (.notNumber e)
  | .ok x => timeoutOfSeconds x

/-! ### As arguments of a service -/

/-- Read the value of an argument; what is wrong with it becomes a failure that quotes it. -/
def readArgument {ε α : Type} (name : String) (message : ε → String) (read : String → Except ε α)
    (value : String) : Except CheckFailure α :=
  (read value).mapError fun e => .invalidArgument name value (message e)

def portArgument (value : String) : Except CheckFailure UInt16 :=
  readArgument "port" PortError.message readPort value

def timeoutArgument (value : String) : Except CheckFailure Duration :=
  readArgument "timeout" TimeoutError.message readTimeout value

/-- The timeout of a service's check: that of its argument, else a default. -/
def timeoutOf (s : Service) (default : Duration) : Except CheckFailure Duration :=
  match s.argument? "timeout" with
  | some value => timeoutArgument value
  | none => .ok default

end Vigil.Checker
