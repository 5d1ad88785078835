import Vigil.Decimal.Shortest

/-!
Spans of time in whole nanoseconds, at most `2 ^ 64` seconds.
-/

namespace Vigil.Clock

open Vigil.Decimal

structure Duration where
  nanos : Nat
deriving DecidableEq, Repr, Inhabited

namespace Duration

def second : Nat := Nat.pow 10 9

def millisecond : Nat := Nat.pow 10 6

/-- The span that no span reaches. -/
def bound : Nat := Nat.pow 2 64 * second

def ofSecs (n : Nat) : Duration := ⟨n * second⟩

def ofMillis (n : Nat) : Duration := ⟨n * millisecond⟩

/-- The sum, or the longest span if the sum is too long. -/
def add (a b : Duration) : Duration := ⟨min (a.nanos + b.nanos) (bound - 1)⟩

/-- Whole milliseconds that cover the span: a timer fires at the end of the last one. -/
def millisUp (d : Duration) : Nat := (d.nanos + (millisecond - 1)) / millisecond

/-- The span in seconds as a binary number: seconds and fraction are rounded apart, then their
sum. -/
def seconds (d : Duration) : Binary64 :=
  Binary64.addMagnitudes (Binary64.ofNat (d.nanos / second))
    (Binary64.ofRatio false (d.nanos % second) second)

end Duration

inductive DurationError where
  | negative
  | tooBig
deriving DecidableEq, Repr

def DurationError.message : DurationError → String
  | .negative => "cannot convert float seconds to Duration: value is negative"
  | .tooBig => "cannot convert float seconds to Duration: value is either too big or NaN"

/-- A number of seconds as a span of time: the exact value rounded to the nearest nanosecond, ties
to even. -/
def Duration.ofSeconds (x : Binary64) : Except DurationError Duration :=
  match x with
  | .finite s m e =>
    if s && m != 0 then .error .negative
    else
      let (p, q) := Binary64.ratio m e
      let n := roundDiv (p * second) q
      if n < bound then .ok ⟨n⟩ else .error .tooBig
  | .infinite true => .error .negative
  | .infinite false => .error .tooBig
  | .nan => .error .tooBig

end Vigil.Clock
