import Vigil.Checker.Basic
import Vigil.Roster.Live
import Vigil.Text.Quoted

/-!
Services with their checks, as they stand in the roster.
-/

namespace Vigil

structure Monitored where
  service : Service
  checker : Checker
  /-- Which entry this is: entries of the same content may be different ones. -/
  serial : Nat
  /-- Where the live state of the service is kept. Entries that follow each other share it. -/
  cell : Nat
deriving DecidableEq, Repr, Inhabited

namespace Monitored

def id (m : Monitored) : Int := m.service.id

def statusName : Status → String
  | .up => "Up"
  | .down => "Down"
  | .unknown => "Unknown"

def versionName : Option String → String
  | none => "None"
  | some version => "Some(" ++ Text.quoted version ++ ")"

def description (m : Monitored) (l : Live) : String :=
  "MonitoredService \x7b id: " ++ Text.decimalInt m.id ++
    ", handler: " ++ Text.quoted m.service.kind ++
    ", sysname: " ++ Text.quoted m.service.host ++
    ", state: ServiceState \x7b status: " ++ statusName l.status ++
    ", version: " ++ versionName l.version ++ " \x7d \x7d"

end Monitored

end Vigil
