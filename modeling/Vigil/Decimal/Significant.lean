import Vigil.Decimal.Shortest

/-!
Binary numbers with fifteen significant digits: positional where the leading digit stands between
four places after the point and fifteen before it, with an exponent elsewhere, and always with a
point.
-/

namespace Vigil.Decimal

def significantDigits : Nat := 15

/-- A positive quotient as digits and the exponent of the leading one; a half is rounded up. -/
def roundSignificant (num den : Nat) (lead : Int) : Nat × Int :=
  let (p, q) := powerOfTen (lead - (significantDigits - 1))
  let n := (2 * num * q + den * p) / (2 * den * p)
  if n = Nat.pow 10 significantDigits then (n / 10, lead + 1) else (n, lead)

def trimZeros (l : List Char) : List Char := (l.reverse.dropWhile (· == '0')).reverse

/-- Digits after a point; a zero if there are none. -/
def placesText (l : List Char) : String := String.ofList (if l.isEmpty then ['0'] else l)

/-- The exponent of ten with a sign and at least two digits. -/
def exponentText (e : Int) : String :=
  "e" ++ (if e < 0 then "-" else "+") ++ Text.decimalPadded 2 e.natAbs

def significantMagnitude (num den : Nat) (lead : Int) : String :=
  let (n, lead) := roundSignificant num den lead
  let digits := trimZeros (Nat.toDigits 10 n)
  if lead < -4 || (significantDigits : Int) ≤ lead then
    String.ofList (digits.take 1) ++ "." ++ placesText (digits.drop 1) ++ exponentText lead
  else if lead < 0 then
    "0." ++ String.ofList (List.replicate (-lead - 1).toNat '0') ++ String.ofList digits
  else
    let whole := lead.toNat + 1
    String.ofList ((digits ++ List.replicate whole '0').take whole) ++ "." ++
      placesText (digits.drop whole)

def Binary64.significantText : Binary64 → String
  | .finite s m e =>
    if m == 0 then "0.0"
    else
      let (p, q) := ratio m e
      let guess := ((Nat.log2 m : Int) + e) * 30103 / 100000 - 2
      (if s then "-" else "") ++ significantMagnitude p q (leadingExponent p q 5 guess)
  | .infinite s => if s then "-Inf" else "Inf"
  | .nan => "NaN"

end Vigil.Decimal
