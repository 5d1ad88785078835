import Vigil.Clock.Instant
import Vigil.Service.Basic

/-!
Events: what is told of a service when its state changes or it reports another version.
-/

namespace Vigil

open Vigil.Clock

inductive Change where
  | state (status : Status)
  | version (version : String)
deriving DecidableEq, Repr, Inhabited

structure Event where
  source : String
  target : String
  service : Int
  netbox : Int
  device : Option Int
  change : Change
  info : String
  time : Instant
deriving DecidableEq, Repr, Inhabited

namespace Event

def ownSource : String := "serviceping"

def ownTarget : String := "eventEngine"

/-- The senders whose events the datastore takes. -/
def acceptedSources : List String := [ownSource, "pping"]

def ofChange (s : Service) (change : Change) (info : String) (time : Instant) : Event :=
  ⟨ownSource, ownTarget, s.id, s.netbox, s.device, change, info, time⟩

def stateChange (s : Service) (status : Status) (info : String) (time : Instant) : Event :=
  ofChange s (.state status) info time

def versionChange (s : Service) (version : String) (time : Instant) : Event :=
  ofChange s (.version version) ("version " ++ version) time

def typeName (e : Event) : String :=
  match e.change with
  | .state _ => "serviceState"
  | .version _ => "version"

/-- The code of an event: the start or the end of an outage, or neither. -/
def code (e : Event) : String :=
  match e.change with
  | .state .down => "s"
  | .state .up => "e"
  | .state .unknown | .version _ => "x"

def value (e : Event) : Nat :=
  match e.change with
  | .state .up => 100
  | .state .down => 1
  | .state .unknown | .version _ => 0

def text (e : Event) : String :=
  e.typeName ++ " service=" ++ Text.decimalInt e.service ++ " netbox=" ++
    Text.decimalInt e.netbox ++
    " state=" ++ e.code ++ " value=" ++ Text.decimal e.value ++ " (" ++ e.info ++ ")"

end Event

end Vigil
