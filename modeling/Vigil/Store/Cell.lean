import Vigil.Decimal.Literal
import Vigil.Decimal.Significant

/-!
What stands in a row of a table: nothing, a number, a text or bytes. A column prefers one kind and
converts what is put into it where nothing is lost.
-/

namespace Vigil.Store

open Vigil.Decimal

inductive Cell where
  | null
  /-- A whole number of 64 bits. -/
  | integer (n : Int)
  | real (x : Binary64)
  | text (s : String)
  | blob (bytes : List UInt8)
deriving DecidableEq, Repr, Inhabited

/-- What a column prefers to hold. -/
inductive Affinity where
  | integer
  | text
deriving DecidableEq, Repr

namespace Cell

def minInteger : Int := -(Nat.pow 2 63 : Nat)

def maxInteger : Int := (Nat.pow 2 63 : Nat) - 1

def isSpace (c : Char) : Bool := c == ' ' || ('\t' ≤ c && c ≤ '\r')

def unspaced (s : String) : List Char :=
  ((s.toList.dropWhile isSpace).reverse.dropWhile isSpace).reverse

/-- A real number as a whole number, if it is one and not at the ends of what whole numbers
reach. -/
def ofReal (x : Binary64) : Cell :=
  match x with
  | .nan => null
  | .finite s m e =>
    let (p, q) := Binary64.ratio m e
    let n : Int := if s then -(p / q : Nat) else (p / q : Nat)
    if p % q = 0 ∧ minInteger < n ∧ n < maxInteger then integer n else real x
  | x => real x

/-- The number that a text stands for, or the text. -/
def ofNumeral (s : String) : Cell :=
  let (negative, digits) := takeSign (unspaced s)
  let whole : Int := if negative then -(Text.decimalValue digits : Int)
    else Text.decimalValue digits
  if !digits.isEmpty && digits.all Text.isDigit && minInteger ≤ whole && whole ≤ maxInteger then
    integer whole
  else match readUnsigned? digits with
    | some (n, e) => ofReal (Binary64.ofDecimal negative n e)
    | none => text s

/-- A value as a column takes it. -/
def convert : Affinity → Cell → Cell
  | .integer, text s => ofNumeral s
  | .integer, real x => ofReal x
  | .text, integer n => text (Text.decimalInt n)
  | .text, real .nan => null
  | .text, real x => text x.significantText
  | _, c => c

def integer? : Cell → Option Int
  | integer n => some n
  | _ => none

def text? : Cell → Option String
  | text s => some s
  | _ => none

/-- What a reader makes of a value, where nothing may stand for nothing. -/
def optional {α : Type} (read : Cell → Option α) : Cell → Option (Option α)
  | null => some none
  | c => (read c).map some

/-! ### Order -/

/-- Nothing comes before numbers, numbers before texts, texts before bytes. -/
def rank : Cell → Nat
  | null => 0
  | integer _ | real _ => 1
  | text _ => 2
  | blob _ => 3

def fraction : Cell → Int × Nat
  | integer n => (n, 1)
  | real (.finite s m e) =>
    let (p, q) := Binary64.ratio m e
    (if s then -p else p, q)
  | real (.infinite s) => (if s then -(Nat.pow 2 2000 : Nat) else (Nat.pow 2 2000 : Nat), 1)
  | _ => (0, 1)

def precedes (a b : Cell) : Bool :=
  match a, b with
  | text s, text t => s < t
  | blob s, blob t => s.map UInt8.toNat < t.map UInt8.toNat
  | a, b =>
    a.rank < b.rank || (a.rank == 1 && b.rank == 1 &&
      (let (p, q) := a.fraction
       let (r, s) := b.fraction
       p * s < r * q))

def rowPrecedes : List Cell → List Cell → Bool
  | a :: l, b :: m => a.precedes b || (!b.precedes a && rowPrecedes l m)
  | [], _ :: _ => true
  | _, [] => false

end Cell

end Vigil.Store
