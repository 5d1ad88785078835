import Vigil.Text.Digits
import Vigil.Unicode.Printable

/-!
Quoted text: in double quotes, with a quote and a backslash behind a backslash, and every character
that cannot be printed in an escape.
-/

namespace Vigil.Text

open Vigil.Unicode

def escape (c : Char) : List Char :=
  if c == '\x00' then ['\\', '0']
  else if c == '\t' then ['\\', 't']
  else if c == '\n' then ['\\', 'n']
  else if c == '\r' then ['\\', 'r']
  else if c == '"' || c == '\\' then ['\\', c]
  else if isPrintable c then [c]
  else ['\\', 'u', '\x7b'] ++ Nat.toDigits 16 c.toNat ++ ['\x7d']

def quoted (s : String) : String :=
  String.ofList ('"' :: s.toList.flatMap escape ++ ['"'])

end Vigil.Text
