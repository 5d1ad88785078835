import Vigil.Clock.Duration

/-!
The times of a round of checks: how the checks are spread over the interval, and how long the rest
is that ends the round.
-/

namespace Vigil.Round

open Vigil.Clock

/-- The time over which checks are spread: what is left of the interval, or a whole one if nothing
is. -/
def budget (interval elapsed : Nat) : Nat :=
  if elapsed < interval then interval - elapsed else interval

/-- In how many parts the time can be divided. -/
def mostParts : Nat := Nat.pow 2 32 - 1

/-- The pause between two checks of `n`: they fill half of the time. -/
def pause (interval elapsed n : Nat) : Nat := budget interval elapsed / min (n * 2) mostParts

/-- How long a part of an interval can be. -/
def partBound : Nat := Nat.pow 2 64

/-- The rest at the end of a round, up to the next multiple of the interval. -/
def rest (interval elapsed : Nat) : Nat :=
  if elapsed < interval then interval - elapsed
  else
    let part := (elapsed - interval) % max interval 1
    interval - if part < partBound then part else 0

end Vigil.Round
