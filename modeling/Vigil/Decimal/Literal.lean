import Vigil.Decimal.Binary64
import Vigil.Text.Digits

/-!
Decimal literals of binary numbers: an optional sign, digits with an optional point (on one side of
it at least one digit), an optional exponent; or `inf`, `infinity`, `nan` in any case.
-/

namespace Vigil.Decimal

open Vigil.Text

inductive LiteralError where
  | empty
  | invalid
deriving DecidableEq, Repr

def LiteralError.message : LiteralError → String
  | .empty => "cannot parse float from empty string"
  | .invalid => "invalid float literal"

def takeSign : List Char → Bool × List Char
  | '-' :: r => (true, r)
  | '+' :: r => (false, r)
  | r => (false, r)

def takeDigits (s : List Char) : List Char × List Char := s.span isDigit

/-- An exponent: the sign, at least one digit, and nothing more. -/
def readExponent? (s : List Char) : Option Int :=
  let (negative, digits) := takeSign s
  if digits.isEmpty || !digits.all isDigit then none
  else
    let n : Int := decimalValue digits
    some (if negative then -n else n)

/-- A decimal without its sign, as a whole number of digits and a power of ten. -/
def readUnsigned? (s : List Char) : Option (Nat × Int) :=
  let (whole, rest) := takeDigits s
  let (fraction, rest) := match rest with
    | '.' :: r => takeDigits r
    | r => ([], r)
  if whole.isEmpty && fraction.isEmpty then none
  else
    let digits := decimalValue (whole ++ fraction)
    match rest with
    | [] => some (digits, -fraction.length)
    | c :: r =>
      if c == 'e' || c == 'E' then (readExponent? r).map fun e => (digits, e - fraction.length)
      else none

def readLiteral (s : List Char) : Except LiteralError Binary64 :=
  if s.isEmpty then .error .empty
  else
    let (negative, rest) := takeSign s
    let word := String.ofList (rest.map Char.toLower)
    if word == "inf" || word == "infinity" then .ok (.infinite negative)
    else if word == "nan" then .ok .nan
    else match readUnsigned? rest with
      | some (digits, exponent) => .ok (Binary64.ofDecimal negative digits exponent)
      | none => .error .invalid

end Vigil.Decimal
