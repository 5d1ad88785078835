import Vigil.Keyed
import Vigil.Net.Address
import Vigil.Service.Status

/-!
Services as they are configured: where each one is, which kind of check it wants, and what was last
known of it.
-/

namespace Vigil

structure Service where
  id : Int
  netbox : Int
  device : Option Int
  address : Net.Address
  /-- The name of the node that runs the service. -/
  host : String
  /-- The kind of check. -/
  kind : String
  arguments : Keyed String String
  status : Status
  version : Option String
  active : Bool
deriving DecidableEq, Repr, Inhabited

namespace Service

/-- The argument of a name; an empty one counts as missing. -/
def argument? (s : Service) (name : String) : Option String :=
  (s.arguments.get? name).filter (· != "")

/-- Whether two services ask for the same check: they agree on all but the number, what was last
known, and whether they are active. -/
def sameTarget (s t : Service) : Bool :=
  s.netbox == t.netbox && s.device == t.device && s.address == t.address && s.host == t.host &&
    s.kind == t.kind && s.arguments == t.arguments

/-- How a service is named in messages. -/
def label (s : Service) : String :=
  s.host ++ ":" ++ s.kind ++ " (service " ++ Text.decimalInt s.id ++ ")"

/-- The fields on which services that ask for the same check agree. -/
theorem sameTarget_iff {s t : Service} : s.sameTarget t = true ↔
    s.netbox = t.netbox ∧ s.device = t.device ∧ s.address = t.address ∧ s.host = t.host ∧
      s.kind = t.kind ∧ s.arguments = t.arguments := by
  simp [sameTarget, and_assoc]

theorem sameTarget_refl (s : Service) : s.sameTarget s = true := by simp [sameTarget_iff]

end Service

end Vigil
