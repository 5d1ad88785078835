import Vigil.Checker.Failure
import Vigil.Service.Verdict

/-!
Runs of a check on a clock of whole milliseconds: how long a run takes, and which verdict it ends
with. A run that fails, or does not end in time, finds the service down.
-/

namespace Vigil

open Vigil.Clock

inductive Reply where
  | verdict (v : Verdict)
  | failure (f : CheckFailure)
  /-- It never ends. -/
  | silence
deriving DecidableEq, Repr, Inhabited

/-- What a check does when it is run: it takes some milliseconds, and then replies. -/
structure Behaviour where
  delay : Nat
  reply : Reply
deriving DecidableEq, Repr

namespace Behaviour

/-- A check of which nothing is said finds its service up. -/
instance : Inhabited Behaviour := ⟨⟨0, .verdict (.up "OK")⟩⟩

/-- The limit of a run: the timeout of the check, and a second more. -/
def limit (timeout : Duration) : Duration := timeout.add (.ofSecs 1)

/-- The verdict of a run that did not end in time. -/
def timedOut (timeout : Duration) : Verdict := .down (CheckFailure.timeout (limit timeout)).message

def length (b : Behaviour) (timeout : Duration) : Nat :=
  match b.reply with
  | .silence => (limit timeout).millisUp
  | _ => min b.delay (limit timeout).millisUp

/-- The verdict of a run. One that ends just at the limit counts. -/
def verdict (b : Behaviour) (timeout : Duration) : Verdict :=
  if (limit timeout).millisUp < b.delay then timedOut timeout
  else match b.reply with
    | .verdict v => v
    | .failure f => .down f.diagnosis.line
    | .silence => timedOut timeout

/-- No run takes longer than its limit. -/
theorem length_le (b : Behaviour) (timeout : Duration) :
    b.length timeout ≤ (limit timeout).millisUp := by
  unfold length
  split
  · exact Nat.le_refl _
  · exact Nat.min_le_right ..

end Behaviour

/-- What a check does when it is run again and again: the last behaviour repeats. -/
structure Script where
  behaviours : List Behaviour
  /-- How often the check has been run. -/
  used : Nat
deriving DecidableEq, Repr, Inhabited

namespace Script

def ofList (l : List Behaviour) : Script := ⟨l, 0⟩

/-- What the check does when it is run for the `n`-th time, from zero. -/
def nth (s : Script) (n : Nat) : Behaviour :=
  (s.behaviours[min n (s.behaviours.length - 1)]?).getD default

def next (s : Script) : Behaviour := s.nth s.used

def skip (s : Script) (n : Nat) : Script := { s with used := s.used + n }

end Script

end Vigil
