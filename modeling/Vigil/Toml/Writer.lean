import Vigil.Decimal.Shortest
import Vigil.Text.Digits

/-!
Writing TOML. A text is written in the plainest quotes that need no escape; only if there are none,
with escapes. Numbers with a fraction always show one.
-/

namespace Vigil.Toml

open Vigil.Decimal Vigil.Text

def longestRun (c : Char) (s : List Char) : Nat :=
  (s.foldl (fun (longest, current) d =>
    let current := if d == c then current + 1 else 0
    (max longest current, current)) (0, 0)).1

/-- Whether a text holds controls that are written as escapes in every kind of quotes; a tab and a
line feed are none of them. -/
def hasControl (s : List Char) : Bool :=
  s.any fun c => (c.toNat < 0x20 && c != '\t' && c != '\n') || c.toNat == 0x7F

inductive Quoting where
  /-- Double quotes, with escapes. -/
  | basic
  /-- Single quotes, without escapes. -/
  | literal
  /-- Three double quotes, with escapes, over several lines. -/
  | longBasic
  /-- Three single quotes, without escapes, over several lines. -/
  | longLiteral
deriving DecidableEq, Repr

def Quoting.of (s : List Char) : Quoting :=
  let control := hasControl s
  let backslash := s.contains '\\'
  let newline := s.contains '\n'
  let single := longestRun '\'' s
  let double := longestRun '"' s
  if !control && !backslash && double == 0 && !newline then .basic
  else if !control && single == 0 && !newline then .literal
  else if !control && !backslash && double ≤ 2 then .longBasic
  else if !control && single ≤ 2 then .longLiteral
  else if newline then .longBasic
  else .basic

/-- A number in four hexadecimal digits, upper case. -/
def fourDigits (n : Nat) : List Char :=
  let digits := (Nat.toDigits 16 n).map Char.toUpper
  List.replicate (4 - digits.length) '0' ++ digits

/-- A character between double quotes, behind a run of so many quotes, and the length of the run
after it. Of a run longer than `quotes` the last quote is escaped; line feeds are if `newlines` says
so. -/
def escapeChar (quotes : Nat) (newlines : Bool) (run : Nat) (c : Char) : List Char × Nat :=
  if c == '"' then if quotes < run + 1 then (['\\', '"'], 0) else (['"'], run + 1)
  else if c == '\x08' then (['\\', 'b'], 0)
  else if c == '\t' then (['\\', 't'], 0)
  else if c == '\n' then (if newlines then ['\\', 'n'] else ['\n'], 0)
  else if c == '\x0c' then (['\\', 'f'], 0)
  else if c == '\r' then (['\\', 'r'], 0)
  else if c == '\\' then (['\\', '\\'], 0)
  else if c.toNat < 0x20 || c.toNat == 0x7F then ('\\' :: 'u' :: fourDigits c.toNat, 0)
  else ([c], 0)

def escapeText (quotes : Nat) (newlines : Bool) : (run : Nat) → List Char → List Char
  | _, [] => []
  | run, c :: rest =>
    let (piece, run) := escapeChar quotes newlines run c
    piece ++ escapeText quotes newlines run rest

/-- A text in quotes. In long quotes a text of several lines starts on a line of its own. -/
def stringText (s : String) : String :=
  let text := s.toList
  let newline := if text.contains '\n' then ['\n'] else []
  let single := ['\'', '\'', '\'']
  let double := ['"', '"', '"']
  String.ofList <| match Quoting.of text with
    | .basic => '"' :: escapeText 0 true 0 text ++ ['"']
    | .literal => '\'' :: text ++ ['\'']
    | .longBasic => double ++ newline ++ escapeText 2 false 0 text ++ double
    | .longLiteral => single ++ newline ++ text ++ single

def floatText : Binary64 → String
  | .finite s m e =>
    let text := (Binary64.finite s m e).text
    if Binary64.isWhole m e then text ++ ".0" else text
  | .infinite s => if s then "-inf" else "inf"
  | .nan => "nan"

def entryText (key value : String) : String := key ++ " = " ++ value ++ "\n"

def sectionText (name : String) (entries : List (String × String)) : String :=
  "[" ++ name ++ "]\n" ++ String.join (entries.map fun e => entryText e.1 e.2)

/-- Tables with a blank line between. -/
def documentText (sections : List (String × List (String × String))) : String :=
  String.intercalate "\n" (sections.map fun s => sectionText s.1 s.2)

end Vigil.Toml
