import Vigil.Text.Digits

/-!
IPv4 and IPv6 addresses: the textual forms of the Internet standards, read strictly and written in
the canonical form.
-/

namespace Vigil.Net

open Vigil.Text

structure Ipv4 where
  a : UInt8
  b : UInt8
  c : UInt8
  d : UInt8
deriving DecidableEq, Repr, Inhabited

/-- An IPv6 address as its eight groups of sixteen bits. -/
structure Ipv6 where
  groups : Vector UInt16 8
deriving DecidableEq, Repr

instance : Inhabited Ipv6 := ⟨⟨Vector.replicate 8 0⟩⟩

inductive Address where
  | v4 (a : Ipv4)
  | v6 (a : Ipv6)
deriving DecidableEq, Repr

instance : Inhabited Address := ⟨.v4 default⟩

/-! ### Writing -/

def Ipv4.text (x : Ipv4) : String :=
  String.intercalate "." ([x.a, x.b, x.c, x.d].map fun n => decimal n.toNat)

/-- The address with the number `n` below `2 ^ 32`. -/
def Ipv4.ofNat (n : Nat) : Ipv4 :=
  ⟨(n / Nat.pow 2 24 % 256).toUInt8, (n / Nat.pow 2 16 % 256).toUInt8,
    (n / Nat.pow 2 8 % 256).toUInt8,
    (n % 256).toUInt8⟩

/-- The length of the run of zeros that starts a list. -/
def zeroRun (l : List Nat) : Nat := (l.takeWhile (· == 0)).length

/-- Start and length of the longest run of zeros, the first of several; length zero for none. -/
def longestZeros (l : List Nat) : Nat × Nat :=
  (List.range l.length).foldl (fun best i =>
    let n := zeroRun (l.drop i)
    if best.2 < n then (i, n) else best) (0, 0)

def groupsText (l : List Nat) : String := String.intercalate ":" (l.map hexadecimal)

/-- Groups in hexadecimal; the longest run of two or more zeros is written `::`, and a mapped IPv4
address in its own form. -/
def Ipv6.text (x : Ipv6) : String :=
  let l := x.groups.toList.map UInt16.toNat
  match l with
  | [0, 0, 0, 0, 0, 0xFFFF, hi, lo] => "::ffff:" ++ (Ipv4.ofNat (hi * 65536 + lo)).text
  | _ =>
    let (start, n) := longestZeros l
    if n < 2 then groupsText l
    else groupsText (l.take start) ++ "::" ++ groupsText (l.drop (start + n))

def Address.text : Address → String
  | .v4 a => a.text
  | .v6 a => a.text

def Address.isV6 : Address → Bool
  | .v4 _ => false
  | .v6 _ => true

/-! ### Reading -/

/-- A byte in one to three decimal digits, without zeros in front. -/
def readByte? (s : List Char) : Option UInt8 := do
  let n ← readNat? 10 s
  if n < 256 && (s.length == 1 || s.head? != some '0') then some n.toUInt8 else none

def Ipv4.read? (s : List Char) : Option Ipv4 := do
  match ← (s.splitOn '.').mapM readByte? with
  | [a, b, c, d] => some ⟨a, b, c, d⟩
  | _ => none

def readGroup? (s : List Char) : Option Nat := if s.length ≤ 4 then readNat? 16 s else none

/-- Groups with colons between, the last two perhaps as an IPv4 address; no text is no groups. -/
def readGroups? (s : List Char) : Option (List Nat) :=
  if s.isEmpty then some []
  else
    let parts := s.splitOn ':'
    match Ipv4.read? (parts.getLastD []) with
    | some x => do
      let groups ← parts.dropLast.mapM readGroup?
      some (groups ++ [x.a.toNat * 256 + x.b.toNat, x.c.toNat * 256 + x.d.toNat])
    | none => parts.mapM readGroup?

/-- The text before and after the first `::`. -/
def splitGap : List Char → Option (List Char × List Char)
  | [] => none
  | ':' :: ':' :: rest => some ([], rest)
  | c :: rest => (splitGap rest).map fun (a, b) => (c :: a, b)

def Ipv6.ofGroups? (l : List Nat) : Option Ipv6 :=
  if h : (l.map Nat.toUInt16).toArray.size = 8 then some ⟨⟨(l.map Nat.toUInt16).toArray, h⟩⟩
  else none

/-- Eight groups with colons between, where `::` stands for one or more groups of zero. -/
def Ipv6.read? (s : List Char) : Option Ipv6 :=
  match splitGap s with
  | none => (readGroups? s).bind Ipv6.ofGroups?
  | some (before, after) => do
    let head ← readGroups? before
    let tail ← readGroups? after
    if before.contains '.' || 7 < head.length + tail.length then none
    else Ipv6.ofGroups? (head ++ List.replicate (8 - head.length - tail.length) 0 ++ tail)

def Address.read? (s : List Char) : Option Address :=
  match Ipv4.read? s with
  | some a => some (.v4 a)
  | none => (Ipv6.read? s).map .v6

end Vigil.Net
