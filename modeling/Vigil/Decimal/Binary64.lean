/-!
Binary floating point numbers of 64 bits as exact values: `mantissa * 2 ^ exponent` with a sign, the
infinities, and not-a-number. Rounding is to the nearest value, a tie going to the even mantissa.
-/

namespace Vigil.Decimal

/-- A quotient of naturals rounded to the nearest, ties to even. The divisor is positive. -/
def roundDiv (num den : Nat) : Nat :=
  let q := num / den
  let r := num % den
  if 2 * r < den then q
  else if den < 2 * r then q + 1
  else if q % 2 == 0 then q else q + 1

/-- A rounded quotient is within half a unit of the quotient. -/
theorem roundDiv_close (num : Nat) {den : Nat} (h : 0 < den) :
    2 * num ≤ 2 * (roundDiv num den * den) + den ∧
    2 * (roundDiv num den * den) ≤ 2 * num + den := by
  have split := Nat.div_add_mod num den
  have small := Nat.mod_lt num h
  have comm : den * (num / den) = num / den * den := Nat.mul_comm _ _
  unfold roundDiv
  simp only
  split
  · omega
  · split
    · rw [Nat.add_mul]; omega
    · split
      · omega
      · rw [Nat.add_mul]; omega

/-- A binary floating point number. A finite value is in lowest form: the mantissa is below `2 ^ 53`
and the exponent is as small as that and `-1074` allow. -/
inductive Binary64 where
  | finite (negative : Bool) (mantissa : Nat) (exponent : Int)
  | infinite (negative : Bool)
  | nan
deriving DecidableEq, Repr

namespace Binary64

instance : Inhabited Binary64 := ⟨.finite false 0 (-1074)⟩

def minExponent : Int := -1074

def maxExponent : Int := 971

/-- The value `mantissa * 2 ^ exponent`, where the mantissa may have reached `2 ^ 53` by
rounding. -/
def pack (negative : Bool) (mantissa : Nat) (exponent : Int) : Binary64 :=
  let (m, e) := if mantissa == Nat.pow 2 53 then (Nat.pow 2 52, exponent + 1)
    else (mantissa, exponent)
  if maxExponent < e then .infinite negative
  else if m == 0 then .finite negative 0 minExponent
  else .finite negative m e

/-- `num / den * 2 ^ (-shift)` as a rounded natural. -/
def scaled (num den : Nat) (shift : Int) : Nat :=
  if 0 ≤ shift then roundDiv num (den * Nat.pow 2 shift.toNat)
  else roundDiv (num * Nat.pow 2 (-shift).toNat) den

/-- The number nearest to `num / den`. -/
def ofRatio (negative : Bool) (num den : Nat) : Binary64 :=
  if num == 0 then .finite negative 0 minExponent
  else
    let guess : Int := (Nat.log2 num : Int) - (Nat.log2 den : Int) - 52
    -- the quotient lies in `[2 ^ (guess + 51), 2 ^ (guess + 53))`
    let below := if 0 ≤ guess + 52 then num < den * Nat.pow 2 (guess + 52).toNat
      else num * Nat.pow 2 (-(guess + 52)).toNat < den
    let e := max (if below then guess - 1 else guess) minExponent
    pack negative (scaled num den e) e

def ofInt (n : Int) : Binary64 := ofRatio (n < 0) n.natAbs 1

def ofNat (n : Nat) : Binary64 := ofRatio false n 1

/-- The number nearest to `digits * 10 ^ exponent`. Exponents so far out that the answer is zero or
infinite are settled by the count of digits. -/
def ofDecimal (negative : Bool) (digits : Nat) (exponent : Int) : Binary64 :=
  if digits == 0 then .finite negative 0 minExponent
  else
    let size : Int := (Nat.toDigits 10 digits).length + exponent
    if size < -330 then .finite negative 0 minExponent
    else if 310 < size then .infinite negative
    else if 0 ≤ exponent then ofRatio negative (digits * Nat.pow 10 exponent.toNat) 1
    else ofRatio negative digits (Nat.pow 10 (-exponent).toNat)

/-- Whether a number is negative or minus zero. -/
def isNegative : Binary64 → Bool
  | .finite s _ _ => s
  | .infinite s => s
  | .nan => false

def isFinite : Binary64 → Bool
  | .finite .. => true
  | _ => false

/-- Whether a number is zero, of either sign. -/
def isZero : Binary64 → Bool
  | .finite _ m _ => m == 0
  | _ => false

/-- A finite magnitude as a numerator and a positive denominator. -/
def ratio (mantissa : Nat) (exponent : Int) : Nat × Nat :=
  if 0 ≤ exponent then (mantissa * Nat.pow 2 exponent.toNat, 1)
  else (mantissa, Nat.pow 2 (-exponent).toNat)

def atMost (x : Binary64) (n : Nat) : Bool :=
  match x with
  | .finite true _ _ => true
  | .finite false m e => let (p, q) := ratio m e; p ≤ n * q
  | .infinite s => s
  | .nan => false

/-- The sum of two numbers that are not negative, rounded once. -/
def addMagnitudes (x y : Binary64) : Binary64 :=
  match x, y with
  | .finite _ m e, .finite _ n f =>
    let (p, q) := ratio m e
    let (r, s) := ratio n f
    ofRatio false (p * s + r * q) (q * s)
  | .nan, _ | _, .nan => .nan
  | _, _ => .infinite false

end Binary64

end Vigil.Decimal
