import Vigil.Json.Basic
import Vigil.Text.Digits
import Vigil.Text.Rest

/-!
Reading JSON. Every step returns the rest of the text together with a proof that it is shorter.
-/

namespace Vigil.Json

open Vigil.Text

def isSpace (c : Char) : Bool := c == ' ' || c == '\t' || c == '\n' || c == '\r'

def skip (s : List Char) : { r : List Char // r.length ≤ s.length } := skipWhile isSpace s

/-! ### Texts -/

/-- The number of four hexadecimal digits. -/
def unit? (a b c d : Char) : Option Nat := readNat? 16 [a, b, c, d]

/-- The character of two halves. -/
def joinHalves (high low : Nat) : Char :=
  Char.ofNat (0x10000 + (high - 0xD800) * 0x400 + (low - 0xDC00))

/-- Whether a unit is the first half of a character. -/
def isHigh (n : Nat) : Bool := 0xD800 ≤ n && n < 0xDC00

/-- Whether a unit is the second half of a character. -/
def isLow (n : Nat) : Bool := 0xDC00 ≤ n && n < 0xE000

/-- What a letter stands for behind a backslash. -/
def escaped? (c : Char) : Option Char :=
  if c == '"' || c == '\\' || c == '/' then some c
  else if c == 'b' then some '\x08'
  else if c == 'f' then some '\x0c'
  else if c == 'n' then some '\n'
  else if c == 'r' then some '\r'
  else if c == 't' then some '\t'
  else none

/-- The second half of a character, written as an escape of its own. -/
def takeLow? : List Char → Option (Nat × List Char)
  | '\\' :: 'u' :: a :: b :: c :: d :: rest =>
    ((unit? a b c d).filter isLow).map fun n => (n, rest)
  | _ => none

/-- What an escape stands for, read behind its backslash. Half a character counts as nothing. -/
def takeEscape? : List Char → Option (Option Char × List Char)
  | [] => none
  | 'u' :: a :: b :: c :: d :: rest => do
    let n ← unit? a b c d
    if isHigh n then
      match takeLow? rest with
      | some (m, rest) => some (some (joinHalves n m), rest)
      | none => some (none, rest)
    else some (if isLow n then none else some (Char.ofNat n), rest)
  | c :: rest => (escaped? c).map fun d => (some d, rest)

def readChars (s : List Char) : Option (List (Option Char) × Rest s) :=
  match s with
  | [] => none
  | c :: rest =>
    if c == '"' then some ([], .tail c rest)
    else if c == '\\' then do
      let (d, r) ← takeEscape? rest
      let r ← Rest.of? rest r
      let (cs, r') ← readChars r.1
      some (d :: cs, (r.onward r').behind)
    else if c.toNat < 0x20 then none
    else (readChars rest).map fun (cs, r) => (some c :: cs, r.behind)
termination_by s.length
decreasing_by
  · have := r.2; simp; omega
  · simp

/-- A text behind its opening quote. -/
def readString (s : List Char) : Option (Option String × Rest s) :=
  (readChars s).map fun (cs, r) => ((cs.mapM id).map String.ofList, r)

/-! ### Numbers -/

def digits? (s : List Char) : Option (List Char × List Char) :=
  match s.span isDigit with
  | ([], _) => none
  | p => some p

/-- The part of a number before point and exponent; a zero stands alone. -/
def whole? (s : List Char) : Option (List Char × List Char) :=
  match s with
  | '0' :: rest => some (['0'], rest)
  | _ => digits? s

def skipFraction? (s : List Char) : Option (Bool × List Char) :=
  match s with
  | '.' :: rest => (digits? rest).map fun p => (true, p.2)
  | _ => some (false, s)

def skipExponent? (s : List Char) : Option (Bool × List Char) :=
  match s with
  | c :: rest =>
    if c == 'e' || c == 'E' then
      let rest := match rest with
        | '+' :: r | '-' :: r => r
        | r => r
      (digits? rest).map fun p => (true, p.2)
    else some (false, s)
  | [] => some (false, [])

def readNumber (s : List Char) : Option (Json × List Char) := do
  let (negative, s) := match s with
    | '-' :: rest => (true, rest)
    | s => (false, s)
  let (digits, s) ← whole? s
  let (fraction, s) ← skipFraction? s
  let (exponent, s) ← skipExponent? s
  let n : Int := decimalValue digits
  if fraction || exponent || (negative && n == 0) then some (.real, s)
  else some (.integer (if negative then -n else n), s)

/-! ### Values -/

def dropWord? (word s : List Char) : Option (List Char) :=
  if word.isPrefixOf s then some (s.drop word.length) else none

def words : List (List Char × Json) :=
  [("null".toList, .null), ("true".toList, .bool true), ("false".toList, .bool false)]

def readAtom (s : List Char) : Option (Json × List Char) :=
  match words.findSome? fun (word, v) => (dropWord? word s).map (v, ·) with
  | some p => some p
  | none => readNumber s

mutual

def readValue (s : List Char) : Option (Json × Rest s) :=
  match skip s with
  | ⟨[], _⟩ => none
  | ⟨c :: rest, h⟩ =>
    have h : rest.length < s.length := h
    if c == '"' then (readString rest).map fun (t, r) => (.string t, r.within (Nat.le_of_lt h))
    else if c == '[' then
      match skip rest with
      | ⟨[], _⟩ => none
      | ⟨d :: rest', h'⟩ =>
        if d == ']' then some (.array [], ⟨rest', Nat.lt_trans h' h⟩)
        else (readItems rest).map fun (vs, r) => (.array vs, r.within (Nat.le_of_lt h))
    else if c == '\x7b' then
      match skip rest with
      | ⟨[], _⟩ => none
      | ⟨d :: rest', h'⟩ =>
        if d == '\x7d' then some (.object [], ⟨rest', Nat.lt_trans h' h⟩)
        else (readMembers rest).map fun (ms, r) => (.object ms, r.within (Nat.le_of_lt h))
    else do
      let (v, r) ← readAtom (c :: rest)
      let r ← Rest.of? (c :: rest) r
      some (v, r.within h)
termination_by (s.length, 0)
decreasing_by all_goals (left; omega)

/-- The items of an array up to its closing bracket. -/
def readItems (s : List Char) : Option (List Json × Rest s) := do
  let (v, r) ← readValue s
  match skip r.1 with
  | ⟨[], _⟩ => none
  | ⟨c :: rest, h⟩ =>
    have h : rest.length < s.length := Nat.lt_trans h r.2
    if c == ',' then
      let (vs, r') ← readItems rest
      some (v :: vs, r'.within (Nat.le_of_lt h))
    else if c == ']' then some ([v], ⟨rest, h⟩)
    else none
termination_by (s.length, 1)
decreasing_by
  · right; omega
  · left; omega

/-- The members of an object up to its closing brace. -/
def readMembers (s : List Char) : Option (List (Option String × Json) × Rest s) :=
  match skip s with
  | ⟨[], _⟩ => none
  | ⟨c :: afterQuote, h⟩ => do
    if c != '"' then none
    let (name, r) ← readString afterQuote
    match skip r.1 with
    | ⟨[], _⟩ => none
    | ⟨d :: afterColon, h'⟩ =>
      have h' : afterColon.length < s.length := Nat.lt_trans h' (Nat.lt_trans r.2 h)
      if d != ':' then none
      let (v, r') ← readValue afterColon
      match skip r'.1 with
      | ⟨[], _⟩ => none
      | ⟨e :: rest, h''⟩ =>
        have h'' : rest.length < s.length := Nat.lt_trans h'' (Nat.lt_trans r'.2 h')
        if e == ',' then
          let (ms, r'') ← readMembers rest
          some ((name, v) :: ms, r''.within (Nat.le_of_lt h''))
        else if e == '\x7d' then some ([(name, v)], ⟨rest, h''⟩)
        else none
termination_by (s.length, 1)
decreasing_by
  · left; omega
  · left; omega

end

def read? (s : String) : Option Json := do
  let (v, r) ← readValue s.toList
  if (skip r.1).1.isEmpty then some v else none

end Vigil.Json
