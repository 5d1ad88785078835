/-!
Whether a service is up, the flag under which the datastore keeps it, and which changes are
reported.
-/

namespace Vigil

inductive Status where
  | up
  | down
  | unknown
deriving DecidableEq, Repr, Inhabited

namespace Status

def text : Status → String
  | up => "up"
  | down => "down"
  | unknown => "unknown"

def ofText? (s : String) : Option Status :=
  if s == "up" then some up
  else if s == "down" then some down
  else if s == "unknown" then some unknown
  else none

/-- The flag of a status: only what is up has the flag `y`. -/
def flag : Status → String
  | up => "y"
  | down | unknown => "n"

/-- The status of a flag: `y` in either case is up, all else is down. -/
def ofFlag (s : String) : Status := if s == "y" || s == "Y" then up else down

/-- Whether going from one status to another is reported. A service seen for the first time is
reported only if it is down. -/
def isTransition : Status → Status → Bool
  | up, down | down, up | unknown, down => true
  | _, _ => false

/-- The word of a status names it. -/
theorem ofText?_text (s : Status) : ofText? s.text = some s := by cases s <;> rfl

/-- No status goes over into itself. -/
theorem not_isTransition_self (s : Status) : isTransition s s = false := by cases s <;> rfl

end Status

end Vigil
