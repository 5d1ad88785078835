import Vigil.Clock.Calendar
import Vigil.Decimal.Literal
import Vigil.Text.Digits
import Vigil.Text.Rest
import Vigil.Toml.Value

/-!
Reading TOML values without parts: texts in four kinds of quotes, numbers, dates, and words.
-/

namespace Vigil.Toml

open Vigil.Decimal Vigil.Text

/-- Whether a character separates on one line. -/
def isBlankChar (c : Char) : Bool := c == ' ' || c == '\t'

/-- Whether a character may stand in a comment or between quotes. -/
def isTextChar (c : Char) : Bool := c == '\t' || (0x20 ≤ c.toNat && c.toNat != 0x7F)

def takeNewline? : List Char → Option (List Char)
  | '\n' :: rest => some rest
  | '\r' :: '\n' :: rest => some rest
  | _ => none

/-! ### Texts -/

/-- The character with a number given in so many hexadecimal digits. -/
def takeCodePoint? (digits : Nat) (s : List Char) : Option (Char × List Char) := do
  let code := s.take digits
  if code.length != digits then none
  let n ← readNat? 16 code
  if h : n.isValidChar then some (Char.ofNatAux n h, s.drop digits) else none

/-- What an escape stands for, read behind its backslash. -/
def takeEscape? : List Char → Option (Char × List Char)
  | [] => none
  | c :: rest =>
    if c == '"' || c == '\\' then some (c, rest)
    else if c == 'b' then some ('\x08', rest)
    else if c == 't' then some ('\t', rest)
    else if c == 'n' then some ('\n', rest)
    else if c == 'f' then some ('\x0c', rest)
    else if c == 'r' then some ('\r', rest)
    else if c == 'u' then takeCodePoint? 4 rest
    else if c == 'U' then takeCodePoint? 8 rest
    else none

/-- Characters up to a quote on the same line. Behind a double quote there are escapes. -/
def readLine (quote : Char) (s : List Char) : Option (List Char × Rest s) :=
  match s with
  | [] => none
  | c :: rest =>
    if c == quote then some ([], .tail c rest)
    else if quote == '"' && c == '\\' then do
      let (d, r) ← takeEscape? rest
      let r ← Rest.of? rest r
      let (cs, r') ← readLine quote r.1
      some (d :: cs, (r.onward r').behind)
    else if isTextChar c then (readLine quote rest).map fun (cs, r) => (c :: cs, r.behind)
    else none
termination_by s.length
decreasing_by
  · have := r.2; simp; omega
  · simp

/-- A text without blanks and line ends in front. -/
def skipLines (s : List Char) : List Char :=
  match s with
  | [] => []
  | c :: rest =>
    if isBlankChar c || c == '\n' then skipLines rest
    else if c == '\r' && rest.head? == some '\n' then skipLines rest
    else c :: rest

/-- Where a line is continued: what follows the blanks and line ends behind a backslash, if there is
a line end among them. -/
def continued? (s : List Char) : Option (List Char) :=
  (takeNewline? (s.dropWhile isBlankChar)).map skipLines

/-- Characters up to three quotes. One or two quotes in front of the three belong to the text. -/
def readLines (quote : Char) (s : List Char) : Option (List Char × Rest s) :=
  match s with
  | [] => none
  | c :: rest =>
    if c == quote then
      let count := 1 + (rest.takeWhile (· == quote)).length
      if 3 ≤ count then do
        let extra := min (count - 3) 2
        let r ← Rest.of? (c :: rest) ((c :: rest).drop (3 + extra))
        some (List.replicate extra quote, r)
      else (readLines quote rest).map fun (cs, r) => (c :: cs, r.behind)
    else if quote == '"' && c == '\\' then
      match continued? rest with
      | some r => do
        let r ← Rest.of? rest r
        let (cs, r') ← readLines quote r.1
        some (cs, (r.onward r').behind)
      | none => do
        let (d, r) ← takeEscape? rest
        let r ← Rest.of? rest r
        let (cs, r') ← readLines quote r.1
        some (d :: cs, (r.onward r').behind)
    else if isTextChar c || c == '\n' then
      (readLines quote rest).map fun (cs, r) => (c :: cs, r.behind)
    else if c == '\r' && rest.head? == some '\n' then
      (readLines quote rest).map fun (cs, r) => (cs, r.behind)
    else none
termination_by s.length
decreasing_by
  · simp
  · have := r.2; simp; omega
  · have := r.2; simp; omega
  · simp
  · simp

def takeLine? (quote : Char) (s : List Char) : Option (String × List Char) :=
  (readLine quote s).map fun (cs, r) => (String.ofList cs, r.1)

/-- A text in quotes of either kind; a line end right behind three quotes does not count. -/
def takeString? : List Char → Option (String × List Char)
  | q :: rest =>
    if q == '"' || q == '\'' then
      match rest with
      | a :: b :: body =>
        if a == q && b == q then
          (readLines q ((takeNewline? body).getD body)).map fun (cs, r) => (String.ofList cs, r.1)
        else takeLine? q rest
      | _ => takeLine? q rest
    else none
  | [] => none

/-! ### Numbers -/

/-- Digits at the front of a text. Underscores stand only between digits. -/
def takeRun? (isDigit : Char → Bool) (s : List Char) : Option (List Char × List Char) :=
  let (run, rest) := s.span fun c => isDigit c || c == '_'
  let parts := run.splitOn '_'
  if parts.any List.isEmpty then none else some (parts.flatten, rest)

/-- Decimal digits without a zero in front. -/
def takeWhole? (s : List Char) : Option (List Char × List Char) := do
  let (digits, rest) ← takeRun? isDigit s
  if digits.head? == some '0' && rest.length + 1 != s.length then none
  else some (digits, rest)

def takeFraction? (s : List Char) : Option (List Char × List Char) :=
  match s with
  | '.' :: rest => takeRun? isDigit rest
  | _ => some ([], s)

def takeExponent? (s : List Char) : Option (Option Int × List Char) :=
  match s with
  | c :: rest =>
    if c == 'e' || c == 'E' then
      let (negative, rest) := takeSign rest
      (takeRun? isDigit rest).map fun (digits, rest) =>
        let n : Int := decimalValue digits
        (some (if negative then -n else n), rest)
    else some (none, s)
  | [] => some (none, s)

/-- An integer of 64 bits. -/
def integer? (n : Int) : Option Value :=
  if -(Nat.pow 2 63 : Nat) ≤ n && n < (Nat.pow 2 63 : Nat) then some (.integer n) else none

/-- A number in another base, read behind its mark. -/
def takeBased? (base : Nat) (s : List Char) : Option (Value × List Char) := do
  let (digits, rest) ← takeRun? (fun c => (digitBelow? base c).isSome) s
  some (← integer? (← readNat? base digits), rest)

/-- Infinity or not-a-number behind its sign. -/
def takeSpecial? (negative : Bool) : List Char → Option (Value × List Char)
  | 'i' :: 'n' :: 'f' :: rest => some (.float (.infinite negative), rest)
  | 'n' :: 'a' :: 'n' :: rest => some (.float .nan, rest)
  | _ => none

/-- A decimal number. One that is too big to be finite is refused, unless it is negative. -/
def takeDecimal? (s : List Char) : Option (Value × List Char) := do
  let (negative, s) := takeSign s
  match takeSpecial? negative s with
  | some p => some p
  | none =>
    let (whole, s) ← takeWhole? s
    let (fraction, s') ← takeFraction? s
    let (exponent, s') ← takeExponent? s'
    if fraction.isEmpty && exponent.isNone then
      let n : Int := decimalValue whole
      some (← integer? (if negative then -n else n), s')
    else
      let x := Binary64.ofDecimal negative (decimalValue (whole ++ fraction))
        (exponent.getD 0 - fraction.length)
      if x == .infinite false then none else some (.float x, s')

def takeNumber? : List Char → Option (Value × List Char)
  | '0' :: 'x' :: rest => takeBased? 16 rest
  | '0' :: 'o' :: rest => takeBased? 8 rest
  | '0' :: 'b' :: rest => takeBased? 2 rest
  | s => takeDecimal? s

/-! ### Dates and times -/

/-- A number of exactly so many digits within bounds. -/
def takeField? (width low high : Nat) (s : List Char) : Option (Nat × List Char) :=
  let digits := s.take width
  let n := decimalValue digits
  if digits.length == width && digits.all isDigit && low ≤ n && n ≤ high then some (n, s.drop width)
  else none

def takeChar? (c : Char) : List Char → Option (List Char)
  | d :: rest => if d == c then some rest else none
  | [] => none

def skipDate? (s : List Char) : Option (List Char) := do
  let (year, s) ← takeField? 4 0 9999 s
  let (month, s) ← takeField? 2 1 12 (← takeChar? '-' s)
  let (day, s) ← takeField? 2 1 31 (← takeChar? '-' s)
  if Clock.daysInMonth year month < day then none else some s

def skipTime? (s : List Char) : Option (List Char) := do
  let (_, s) ← takeField? 2 0 23 s
  let (_, s) ← takeField? 2 0 59 (← takeChar? ':' s)
  let (_, s) ← takeField? 2 0 60 (← takeChar? ':' s)
  match s with
  | '.' :: rest =>
    let digits := rest.takeWhile isDigit
    if digits.isEmpty then none else some (rest.drop digits.length)
  | _ => some s

def skipZone? (s : List Char) : Option (List Char) :=
  match s with
  | [] => some []
  | c :: rest =>
    if c == 'Z' || c == 'z' then some rest
    else if c == '+' || c == '-' then do
      let (_, s) ← takeField? 2 0 23 rest
      let (_, s) ← takeField? 2 0 59 (← takeChar? ':' s)
      some s
    else some s

/-- What follows a date with or without a time. A blank behind a date may be followed by a time. -/
def skipDateTime? (s : List Char) : Option (List Char) := do
  let afterDate ← skipDate? s
  match afterDate with
  | c :: rest =>
    if c == 'T' || c == 't' then skipZone? (← skipTime? rest)
    else if c == ' ' && (takeField? 2 0 99 rest).any (fun p => p.2.head? == some ':') then
      skipZone? (← skipTime? rest)
    else some afterDate
  | [] => some []

def startsWithField (width : Nat) (mark : Char) (s : List Char) : Bool :=
  (takeField? width 0 (Nat.pow 10 width) s).any fun p => p.2.head? == some mark

/-! ### Words -/

def words : List (List Char × Value) :=
  [("true".toList, .boolean true), ("false".toList, .boolean false),
    ("inf".toList, .float (.infinite false)), ("nan".toList, .float .nan)]

def takeScalar? (s : List Char) : Option (Value × List Char) :=
  match s with
  | [] => none
  | c :: _ =>
    if c == '"' || c == '\'' then (takeString? s).map fun (t, rest) => (.string t, rest)
    else if startsWithField 4 '-' s then (skipDateTime? s).map fun rest => (.moment, rest)
    else if startsWithField 2 ':' s then (skipTime? s).map fun rest => (.moment, rest)
    else if isDigit c || c == '+' || c == '-' then takeNumber? s
    else words.findSome? fun (word, v) =>
      if word.isPrefixOf s then some (v, s.drop word.length) else none

end Vigil.Toml
