import Vigil.Confirmation.Behaviour

/-!
Checks with confirmation: a verdict that would be reported is confirmed by running the check again.
The first verdict that would not be reported ends it, and so does the last repetition.
-/

namespace Vigil

open Vigil.Clock

/-- How changes are confirmed. -/
structure Confirmation where
  /-- How often a check is repeated at most. -/
  retries : Nat
  /-- The pause before each repetition. -/
  pause : Duration
deriving DecidableEq, Repr, Inhabited

/-- A run of a check, in milliseconds. -/
structure Run where
  began : Nat
  ended : Nat
  verdict : Verdict
deriving DecidableEq, Repr

instance : Inhabited Run := ⟨⟨0, 0, default⟩⟩

namespace Confirmation

/-- Whether a check is repeated after a verdict, with so many repetitions left. -/
def goesOn (previous : Status) (left : Nat) (v : Verdict) : Bool :=
  previous.isTransition v.status && 0 < left

def runOnce (b : Behaviour) (timeout : Duration) (now : Nat) : Run :=
  ⟨now, now + b.length timeout, b.verdict timeout⟩

/-- The runs of a check from a time on, with so many repetitions left; `behaviour` tells what each
does. -/
def runsFrom (c : Confirmation) (timeout : Duration) (previous : Status)
    (behaviour : Nat → Behaviour) :
    (left : Nat) → (n : Nat) → (now : Nat) → List Run
  | 0, n, now => [runOnce (behaviour n) timeout now]
  | left + 1, n, now =>
    let run := runOnce (behaviour n) timeout now
    if goesOn previous (left + 1) run.verdict then
      run :: c.runsFrom timeout previous behaviour left (n + 1) (run.ended + c.pause.millisUp)
    else [run]

/-- The runs of a check of a service that had a status before. -/
def runs (c : Confirmation) (timeout : Duration) (previous : Status) (behaviour : Nat → Behaviour) :
    List Run :=
  c.runsFrom timeout previous behaviour c.retries 0 0

end Confirmation

end Vigil
