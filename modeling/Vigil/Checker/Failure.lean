import Vigil.Clock.Duration
import Vigil.Diagnosis
import Vigil.Text.Quoted

/-!
Why a check could not be set up or gave no answer.
-/

namespace Vigil

/-- Why a check could not be set up, or failed. -/
inductive CheckFailure where
  /-- No kind of check has that name. -/
  | unknownKind (name : String)
  /-- The kind of check knows IPv4 only. -/
  | ipv6Unsupported (kind : String)
  | missingArgument (name : String)
  | invalidArgument (name value reason : String)
  /-- No answer within a span of time. -/
  | timeout (limit : Clock.Duration)
  /-- The connection was not made, or broke. -/
  | connection (cause : Diagnosis)
  /-- A request over HTTP failed. -/
  | request (text : String)
  /-- The service answered something that is no answer. -/
  | protocol (text : String)
deriving DecidableEq, Repr

namespace CheckFailure

def message : CheckFailure → String
  | unknownKind name => "no such checker: " ++ name
  | ipv6Unsupported kind => "checker " ++ kind ++ " does not support IPv6 targets"
  | missingArgument name => "missing required argument: " ++ name
  | invalidArgument name value reason =>
    "invalid value " ++ Text.quoted value ++ " for argument " ++ name ++ ": " ++ reason
  | timeout limit => "timeout after " ++ limit.seconds.fixed 1 ++ "s"
  | connection cause => "connection failed: " ++ cause.text
  | request text => "request failed: " ++ text
  | protocol text => "protocol error: " ++ text

def diagnosis (f : CheckFailure) : Diagnosis :=
  match f with
  | connection cause => .caused f.message cause
  | _ => .ofText f.message

end CheckFailure

end Vigil
