import Vigil.Service.Event
import Vigil.Service.Verdict

/-!
The live state of a service. Main definitions: the state after a verdict, and the events that tell
of the change.
-/

namespace Vigil

open Vigil.Clock

/-- What is known of a service while it is being checked. -/
structure Live where
  status : Status
  version : Option String
deriving DecidableEq, Repr, Inhabited

namespace Live

/-- A service starts with what was last known of it. -/
def ofService (s : Service) : Live := ⟨s.status, s.version⟩

/-- A verdict decides the status; a verdict without a version leaves the version as it is. -/
def after (l : Live) (v : Verdict) : Live := ⟨v.status, v.version.or l.version⟩

/-- A status that goes over into another one is reported. -/
def statusEvent (l : Live) (s : Service) (v : Verdict) (time : Instant) : Option Event :=
  if l.status.isTransition v.status then some (.stateChange s v.status v.info time) else none

/-- A version that differs from the one known is reported. -/
def versionEvent (l : Live) (s : Service) (v : Verdict) (time : Instant) : Option Event :=
  match v.version with
  | none => none
  | some version => if l.version = some version then none else some (.versionChange s version time)

def events (l : Live) (s : Service) (v : Verdict) (time : Instant) : List Event :=
  (l.statusEvent s v time).toList ++ (l.versionEvent s v time).toList

@[simp] theorem status_after (l : Live) (v : Verdict) : (l.after v).status = v.status := rfl

/-- The same verdict a second time tells nothing. -/
theorem events_after (l : Live) (s : Service) (v : Verdict) (time : Instant) :
    (l.after v).events s v time = [] := by
  unfold events statusEvent versionEvent after
  cases h : v.version <;> simp [Status.not_isTransition_self]

end Live

end Vigil
