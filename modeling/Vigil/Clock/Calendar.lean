/-!
Dates of the Gregorian calendar, extended to all years, and their numbers counted from the start of
1970.
-/

namespace Vigil.Clock

structure Date where
  year : Int
  month : Nat
  day : Nat
deriving DecidableEq, Repr, Inhabited

def isLeapYear (y : Int) : Bool := y % 4 == 0 && (y % 100 != 0 || y % 400 == 0)

def daysInMonth (y : Int) (m : Nat) : Nat :=
  if m == 2 then (if isLeapYear y then 29 else 28)
  else if m == 4 || m == 6 || m == 9 || m == 11 then 30
  else 31

def Date.isValid (d : Date) : Bool :=
  1 ≤ d.month && d.month ≤ 12 && 1 ≤ d.day && d.day ≤ daysInMonth d.year d.month

/-- Days of a year that starts in March before a month of it. -/
def daysBeforeMonth (fromMarch : Nat) : Nat := (153 * fromMarch + 2) / 5

/-- The number of a date. Years are counted from March, so that the leap day is the last one. -/
def Date.number (d : Date) : Int :=
  let y := if d.month ≤ 2 then d.year - 1 else d.year
  let fromMarch := (d.month + 9) % 12
  let era := y / 400
  let inEra := y % 400
  era * 146097 + inEra * 365 + inEra / 4 - inEra / 100 +
    (daysBeforeMonth fromMarch + d.day - 1 : Nat)
    - 719468

def Date.ofNumber (n : Int) : Date :=
  let n := n + 719468
  let era := n / 146097
  let inEra := n % 146097
  let year := (inEra - inEra / 1460 + inEra / 36524 - inEra / 146096) / 365
  let inYear := (inEra - (365 * year + year / 4 - year / 100)).toNat
  let fromMarch := (5 * inYear + 2) / 153
  let month := (fromMarch + 2) % 12 + 1
  ⟨year + era * 400 + if month ≤ 2 then 1 else 0, month, inYear - daysBeforeMonth fromMarch + 1⟩

end Vigil.Clock
