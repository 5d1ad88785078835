import Vigil.Service.Status
import Vigil.Text.Blank

/-!
The answer of a check: up or down, with a line of diagnostics and perhaps the version that the
service reports.
-/

namespace Vigil

/-- The answer of a check. A check never leaves the status open. -/
structure Verdict where
  status : Status
  info : String
  version : Option String
  known : status ≠ .unknown
deriving DecidableEq, Repr

namespace Verdict

def up (info : String) : Verdict := ⟨.up, info, none, by decide⟩

def down (info : String) : Verdict := ⟨.down, info, none, by decide⟩

instance : Inhabited Verdict := ⟨up ""⟩

/-- The verdict with a version; a blank version is none. -/
def withVersion (v : Verdict) (version : Option String) : Verdict :=
  { v with version := version.filter fun s => Text.trimmed s != "" }

/-- A version changes nothing else. -/
@[simp] theorem status_withVersion (v : Verdict) (version : Option String) :
    (v.withVersion version).status = v.status := rfl

end Verdict

end Vigil
