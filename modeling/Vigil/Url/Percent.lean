import Vigil.Text.Digits

/-!
Percent-encoding: the bytes of a character in UTF-8, each as `%` and two hexadecimal digits, and the
sets of characters that must be written so.
-/

namespace Vigil.Url

open Vigil.Text

def byteDigit (n : Nat) : Char := if n < 10 then Char.ofNat (48 + n) else Char.ofNat (55 + n)

def encodeByte (b : UInt8) : List Char := ['%', byteDigit (b.toNat / 16), byteDigit (b.toNat % 16)]

/-- A text with the characters of a set encoded. -/
def percentEncode (encoded : Char → Bool) (s : List Char) : List Char :=
  s.flatMap fun c => if encoded c then (String.utf8EncodeChar c).flatMap encodeByte else [c]

/-- The bytes of a text after decoding. A `%` without two digits stands for itself. -/
def percentDecode : List Char → List UInt8
  | '%' :: a :: b :: rest =>
    match digitBelow? 16 a, digitBelow? 16 b with
    | some x, some y => (x * 16 + y).toUInt8 :: percentDecode rest
    | _, _ => 0x25 :: percentDecode (a :: b :: rest)
  | c :: rest => String.utf8EncodeChar c ++ percentDecode rest
  | [] => []

def decodeBytes? (bytes : List UInt8) : Option (List Char) :=
  (String.fromUTF8? ⟨bytes.toArray⟩).map String.toList

/-! ### Sets of characters -/

/-- Controls, and all that is not ASCII. -/
def isOutside (c : Char) : Bool := c.toNat < 0x20 || 0x7E < c.toNat

def encodedInPath (c : Char) : Bool :=
  isOutside c || [' ', '"', '<', '>', '`', '#', '?', '\x7b', '\x7d'].contains c

def encodedInQuery (c : Char) : Bool :=
  isOutside c || [' ', '"', '#', '<', '>', '\''].contains c

end Vigil.Url
