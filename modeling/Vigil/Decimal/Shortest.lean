import Vigil.Decimal.Binary64
import Vigil.Text.Digits

/-!
The shortest decimal that reads back as a given binary number: among the decimals that round to the
number, those with the fewest digits, and of these the nearest.
-/

namespace Vigil.Decimal

structure Scaled where
  digits : Nat
  exponent : Int
deriving DecidableEq, Repr, Inhabited

/-- The reals that round to a positive binary number, over a common denominator: the number and the
ends of its interval. The ends belong to it if the mantissa is even. -/
structure Interval where
  low : Nat
  value : Nat
  high : Nat
  den : Nat
  closed : Bool

/-- The interval of `mantissa * 2 ^ exponent`. Below a power of two the gap is half as wide. -/
def Interval.of (mantissa : Nat) (exponent : Int) : Interval :=
  let (num, den) := Binary64.ratio 1 exponent
  let narrow := mantissa == Nat.pow 2 52 && Binary64.minExponent < exponent
  ⟨(4 * mantissa - if narrow then 1 else 2) * num, 4 * mantissa * num, (4 * mantissa + 2) * num,
    4 * den, mantissa % 2 == 0⟩

def Interval.contains (i : Interval) (num den : Nat) : Bool :=
  let a := i.low * den
  let b := num * i.den
  let c := i.high * den
  if i.closed then a ≤ b && b ≤ c else a < b && b < c

def powerOfTen (e : Int) : Nat × Nat :=
  if 0 ≤ e then (Nat.pow 10 e.toNat, 1) else (1, Nat.pow 10 (-e).toNat)

/-- The nearer of the value's two neighbours on the grid of multiples of `10 ^ e`, among those
inside the interval; of two equally near the even one. -/
def Interval.onGrid? (i : Interval) (e : Int) : Option Nat :=
  let (p, q) := powerOfTen e
  let k := i.value * q / (i.den * p)
  let inside := fun n => 0 < n && i.contains (n * p) q
  match inside k, inside (k + 1) with
  | false, false => none
  | true, false => some k
  | false, true => some (k + 1)
  | true, true => some (roundDiv (i.value * q) (i.den * p))

/-- The exponent of the leading decimal digit of `num / den`, found from a guess that is too
small. -/
def leadingExponent (num den : Nat) : (steps : Nat) → Int → Int
  | 0, e => e
  | steps + 1, e =>
    let (p, q) := powerOfTen (e + 1)
    if p * den ≤ num * q then leadingExponent num den steps (e + 1) else e

/-- Try grids from the coarsest on. -/
def Interval.search (i : Interval) (lead : Int) : (grids : Nat) → (digits : Nat) → Scaled
  | 0, _ => ⟨0, 0⟩
  | grids + 1, digits =>
    let e := lead - digits
    match i.onGrid? e with
    | some n => ⟨n, e⟩
    | none => i.search lead grids (digits + 1)

def Scaled.stripZeros : (steps : Nat) → Scaled → Scaled
  | 0, d => d
  | steps + 1, d =>
    if d.digits != 0 && d.digits % 10 == 0 then stripZeros steps ⟨d.digits / 10, d.exponent + 1⟩
    else d

def shortest (mantissa : Nat) (exponent : Int) : Scaled :=
  let i := Interval.of mantissa exponent
  let guess := ((Nat.log2 mantissa : Int) + exponent) * 30103 / 100000 - 2
  let lead := leadingExponent i.value i.den 5 guess
  (i.search lead 18 0).stripZeros 20

/-- A decimal in positional notation, with a point only if there are digits after it. -/
def Scaled.positional (d : Scaled) : String :=
  let digits := Nat.toDigits 10 d.digits
  if 0 ≤ d.exponent then String.ofList (digits ++ List.replicate d.exponent.toNat '0')
  else
    let places := (-d.exponent).toNat
    let padded := List.replicate (places + 1 - digits.length) '0' ++ digits
    String.ofList (padded.take (padded.length - places)) ++ "." ++
      String.ofList (padded.drop (padded.length - places))

namespace Binary64

/-- The text of a number: the shortest decimal in positional notation. -/
def text : Binary64 → String
  | .finite s m e =>
    let body := if m == 0 then "0" else (shortest m e).positional
    if s then "-" ++ body else body
  | .infinite s => if s then "-inf" else "inf"
  | .nan => "NaN"

def isWhole (mantissa : Nat) (exponent : Int) : Bool :=
  let (p, q) := ratio mantissa exponent
  p % q == 0

/-- A number with a given count of decimal places, a tie going to the even neighbour. -/
def fixed (places : Nat) : Binary64 → String
  | .finite s m e =>
    let (p, q) := ratio m e
    let body := (Scaled.mk (roundDiv (p * Nat.pow 10 places) q) (-places)).positional
    if s then "-" ++ body else body
  | x => x.text

end Binary64

end Vigil.Decimal
