import Vigil.Clock.Calendar
import Vigil.Clock.Instant
import Vigil.Text.Blank
import Vigil.Text.Digits

/-!
Points in time as text: written as RFC 3339 has it, and read with more freedom. Blanks may stand in
front of every number and sign, numbers may be short, and the year may have a sign.
-/

namespace Vigil.Clock

open Vigil.Text

def secondsPerDay : Int := 86400

def minYear : Int := -262143

def maxYear : Int := 262142

/-! ### Writing -/

/-- The year in four digits; with a sign if that does not suffice. -/
def yearText (y : Int) : String :=
  if 0 ≤ y && y ≤ 9999 then decimalPadded 4 y.toNat
  else (if y < 0 then "-" else "+") ++ decimalPadded 4 y.natAbs

namespace Instant

def date (t : Instant) : Date := .ofNumber (t.seconds / secondsPerDay)

/-- Hours, minutes and seconds of a point in time; a leap second is the second 60. -/
def clock (t : Instant) : Nat × Nat × Nat :=
  let s := (t.seconds % secondsPerDay).toNat
  (s / 3600, s / 60 % 60, s % 60 + t.nanos / Nat.pow 10 9)

def fraction (t : Instant) : Nat := t.nanos % Nat.pow 10 9

def dateText (t : Instant) : String :=
  let d := t.date
  yearText d.year ++ "-" ++ decimalPadded 2 d.month ++ "-" ++ decimalPadded 2 d.day

def clockText (t : Instant) : String :=
  let (h, m, s) := t.clock
  decimalPadded 2 h ++ ":" ++ decimalPadded 2 m ++ ":" ++ decimalPadded 2 s

/-- The fraction of the second in no, three, six or nine digits, as few as are needed. -/
def fractionText (t : Instant) : String :=
  let n := t.fraction
  if n == 0 then ""
  else if n % Nat.pow 10 6 == 0 then "." ++ decimalPadded 3 (n / Nat.pow 10 6)
  else if n % Nat.pow 10 3 == 0 then "." ++ decimalPadded 6 (n / Nat.pow 10 3)
  else "." ++ decimalPadded 9 n

/-- A point in time as RFC 3339 has it, in universal time. -/
def text (t : Instant) : String := t.dateText ++ "T" ++ t.clockText ++ t.fractionText ++ "Z"

/-- A point in time as the datastore keeps it: with a blank between and whole milliseconds. -/
def columnText (t : Instant) : String :=
  t.dateText ++ " " ++ t.clockText ++ "." ++ decimalPadded 3 (t.fraction / Nat.pow 10 6)

end Instant

/-! ### Reading -/

/-- A number of at least one and at most `width` digits, blanks in front aside. -/
def takeNumber? (width : Nat) (s : List Char) : Option (Nat × List Char) :=
  let s := trimLeft s
  let digits := (s.takeWhile isDigit).take width
  if digits.isEmpty then none else some (decimalValue digits, s.drop digits.length)

/-- A given character, blanks in front aside. -/
def takeSign? (sign : Char) (s : List Char) : Option (List Char) :=
  match trimLeft s with
  | c :: rest => if c == sign then some rest else none
  | [] => none

/-- A year: up to four digits, or any number of them behind a sign. -/
def takeYear? (s : List Char) : Option (Int × List Char) :=
  let signed := fun (sign : Int) (s : List Char) =>
    if s.head?.any isDigit then
      (takeNumber? s.length s).map fun (n, rest) => (sign * n, rest)
    else none
  match trimLeft s with
  | '-' :: rest => signed (-1) rest
  | '+' :: rest => signed 1 rest
  | s => (takeNumber? 4 s).map fun (n, rest) => ((n : Int), rest)

def takeDate? (s : List Char) : Option (Date × List Char) := do
  let (year, s) ← takeYear? s
  let (month, s) ← takeNumber? 2 (← takeSign? '-' s)
  let (day, s) ← takeNumber? 2 (← takeSign? '-' s)
  some (⟨year, month, day⟩, s)

/-- The fraction of a second in nanoseconds; digits after the ninth are dropped. -/
def takeFraction? (s : List Char) : Option (Nat × List Char) :=
  match s with
  | '.' :: rest =>
    let digits := rest.takeWhile isDigit
    if digits.isEmpty then none
    else some (decimalValue ((digits ++ List.replicate 9 '0').take 9), rest.drop digits.length)
  | _ => some (0, s)

/-- The time of a day, as seconds and nanoseconds; the second 60 is a leap second. -/
def takeClock? (s : List Char) : Option ((Nat × Nat) × List Char) := do
  let (hour, s) ← takeNumber? 2 s
  let (minute, s) ← takeNumber? 2 (← takeSign? ':' s)
  let (second, s) ← takeNumber? 2 (← takeSign? ':' s)
  let (nanos, s) ← takeFraction? s
  if 23 < hour || 59 < minute || 60 < second then none
  else if second == 60 then some ((hour * 3600 + minute * 60 + 59, nanos + Nat.pow 10 9), s)
  else some ((hour * 3600 + minute * 60 + second, nanos), s)

def takeTwoDigits? : List Char → Option (Nat × List Char)
  | a :: b :: rest =>
    if isDigit a && isDigit b then some (decimalValue [a, b], rest) else none
  | _ => none

/-- Hours and minutes of a distance from universal time, in seconds. -/
def takeOffset? (s : List Char) : Option (Nat × List Char) := do
  let (hours, s) ← takeTwoDigits? s
  let (minutes, s) ← takeTwoDigits? (s.dropWhile fun c => c == ':' || isBlank c)
  if 59 < minutes then none else some (hours * 3600 + minutes * 60, s)

def takeZone? (s : List Char) : Option (Int × List Char) :=
  match trimLeft s with
  | [] => none
  | c :: rest =>
    if ((c :: rest).take 3).map Char.toLower == ['u', 't', 'c'] then some (0, rest.drop 2)
    else if c == 'Z' || c == 'z' then some (0, rest)
    else if c == '+' then (takeOffset? rest).map fun (n, rest) => ((n : Int), rest)
    else if c == '-' || c == '−' then (takeOffset? rest).map fun (n, rest) => (-(n : Int), rest)
    else none

def isInYears (days : Int) : Bool :=
  (Date.mk minYear 1 1).number ≤ days && days ≤ (Date.mk maxYear 12 31).number

def Instant.read? (s : List Char) : Option Instant := do
  let (date, s) ← takeDate? s
  let s ← match s with
    | c :: rest => if c == 'T' || c == 't' || c == ' ' then some rest else none
    | [] => none
  let ((seconds, nanos), s) ← takeClock? s
  let (offset, s) ← takeZone? s
  let utc := date.number * secondsPerDay + seconds - offset
  if (trimLeft s).isEmpty && date.isValid && -secondsPerDay < offset && offset < secondsPerDay &&
      isInYears date.number && isInYears (utc / secondsPerDay) then
    some ⟨utc, nanos⟩
  else none

end Vigil.Clock
