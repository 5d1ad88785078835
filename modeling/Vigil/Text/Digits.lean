/-!
Numbers in digits: reading them strictly, and writing them in base ten and sixteen.
-/

namespace Vigil.Text

def isDigit (c : Char) : Bool := 48 ≤ c.toNat && c.toNat ≤ 57

/-- The value of an ASCII digit or letter in bases up to 36. -/
def digitValue? (c : Char) : Option Nat :=
  let n := c.toNat
  if 48 ≤ n && n ≤ 57 then some (n - 48)
  else if 97 ≤ n && n ≤ 122 then some (n - 87)
  else if 65 ≤ n && n ≤ 90 then some (n - 55)
  else none

def digitBelow? (base : Nat) (c : Char) : Option Nat := (digitValue? c).filter (· < base)

/-- The number that a list of digits writes; nothing for no digits or another character. -/
def readNat? (base : Nat) (s : List Char) : Option Nat :=
  if s.isEmpty then none
  else s.foldlM (fun acc c => (digitBelow? base c).map (acc * base + ·)) 0

/-- The number that decimal digits write, characters that are no digits counting as zero. -/
def decimalValue (s : List Char) : Nat :=
  s.foldl (fun acc c => acc * 10 + (digitBelow? 10 c).getD 0) 0

def decimal (n : Nat) : String := String.ofList (Nat.toDigits 10 n)

def decimalInt (n : Int) : String := if n < 0 then "-" ++ decimal n.natAbs else decimal n.natAbs

def hexadecimal (n : Nat) : String := String.ofList (Nat.toDigits 16 n)

/-- A decimal number with zeros in front up to a width. -/
def decimalPadded (width n : Nat) : String :=
  let digits := Nat.toDigits 10 n
  String.ofList (List.replicate (width - digits.length) '0' ++ digits)

inductive IntegerError where
  | empty
  | invalidDigit
  | tooLarge
deriving DecidableEq, Repr

def IntegerError.message : IntegerError → String
  | .empty => "cannot parse integer from empty string"
  | .invalidDigit => "invalid digit found in string"
  | .tooLarge => "number too large to fit in target type"

/-- Add decimal digits to `acc` as long as the value stays at most `max`; the first digit that is
none, or that passes the bound, is the error. -/
def addDigits (max : Nat) : Nat → List Char → Except IntegerError Nat
  | acc, [] => .ok acc
  | acc, c :: rest =>
    match digitBelow? 10 c with
    | none => .error .invalidDigit
    | some d => if max < acc * 10 + d then .error .tooLarge else addDigits max (acc * 10 + d) rest

/-- A whole number in decimal digits with an optional plus sign, at most `max`. -/
def readBounded (max : Nat) (s : List Char) : Except IntegerError Nat :=
  match s with
  | [] => .error .empty
  | ['+'] => .error .invalidDigit
  | ['-'] => .error .invalidDigit
  | '+' :: rest => addDigits max 0 rest
  | _ => addDigits max 0 s

end Vigil.Text
