import Vigil.Idna.Domain
import Vigil.Net.Address
import Vigil.Url.Failure
import Vigil.Url.Percent

/-!
Hosts of URLs: IPv6 addresses in brackets, IPv4 addresses in any of their numeric forms, and names
in their ASCII form.
-/

namespace Vigil.Url

open Vigil.Net Vigil.Text

inductive Host where
  | name (labels : List Char)
  | v4 (a : Ipv4)
  | v6 (a : Ipv6)
deriving DecidableEq, Repr

def Host.text : Host → String
  | name s => String.ofList s
  | v4 a => a.text
  | v6 a => "[" ++ a.text ++ "]"

def Host.ofAddress : Address → Host
  | .v4 a => .v4 a
  | .v6 a => .v6 a

/-! ### Numeric hosts -/

/-- A number in decimal, in octal behind `0`, or in hexadecimal behind `0x`. -/
def numericPart? : List Char → Option Nat
  | ['0'] => some 0
  | '0' :: 'x' :: digits | '0' :: 'X' :: digits =>
    if digits.isEmpty then some 0 else readNat? 16 digits
  | '0' :: digits => readNat? 8 digits
  | digits => readNat? 10 digits

/-- The parts between points; one point at the end is free. -/
def hostParts (s : List Char) : List (List Char) :=
  let parts := s.splitOn '.'
  if 1 < parts.length && parts.getLast? == some [] then parts.dropLast else parts

/-- Whether the last part of a host is a number, so that the host has to be an IPv4 address. -/
def endsInNumber (s : List Char) : Bool :=
  match (hostParts s).getLast? with
  | some part => (!part.isEmpty && part.all isDigit) || (numericPart? part).isSome
  | none => false

/-- The address that up to four numbers write: the last one fills the bytes that are left. -/
def ipv4OfNumbers? (numbers : List Nat) : Option Ipv4 :=
  match numbers.reverse with
  | [] => none
  | last :: front =>
    if 3 < front.length || front.any (255 < ·) || Nat.pow 256 (4 - front.length) ≤ last then none
    else
      let high := (front.reverse ++ List.replicate (4 - front.length) 0).foldl (· * 256 + ·) 0
      some (Ipv4.ofNat (high + last))

/-- An IPv4 address in any of its numeric forms. -/
def readIpv4? (s : List Char) : Option Ipv4 := do
  ipv4OfNumbers? (← (hostParts s).mapM numericPart?)

/-! ### Reading -/

/-- What stands in brackets at the start of a text that ends with the closing bracket. -/
def bracketed? : List Char → Option (List Char)
  | '[' :: rest => if rest.getLast? == some ']' then some rest.dropLast else none
  | _ => none

def Host.read (s : List Char) : Except Failure Host :=
  if s.head? == some '[' then
    match (bracketed? s).bind Ipv6.read? with
    | some a => .ok (.v6 a)
    | none => .error .invalidIpv6
  else
    match (decodeBytes? (percentDecode s)).bind Idna.toAscii? with
    | none => .error .invalidName
    | some [] => .error .emptyHost
    | some ascii =>
      if endsInNumber ascii then
        match readIpv4? ascii with
        | some a => .ok (.v4 a)
        | none => .error .invalidIpv4
      else .ok (.name ascii)

/-- Characters that no host of any scheme may hold. -/
def isForbiddenInHost (c : Char) : Bool :=
  ['\x00', '\t', '\n', '\r', ' ', '#', '/', ':', '<', '>', '?', '@', '[', '\\', ']', '^',
    '|'].contains c

/-- Whether a text is a host of a scheme that is not known. -/
def checkOpaqueHost (s : List Char) : Except Failure Unit :=
  if s.head? == some '[' then
    if ((bracketed? s).bind Ipv6.read?).isSome then .ok () else .error .invalidIpv6
  else if s.any isForbiddenInHost then .error .invalidCharacter
  else .ok ()

end Vigil.Url
