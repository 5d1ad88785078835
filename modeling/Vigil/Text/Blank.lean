/-!
White space as Unicode's property `White_Space`, and trimming by it. The property is wider than
`Char.isWhitespace`, which knows six ASCII characters.
-/

namespace Vigil.Text

/-- The twenty-five characters with the property `White_Space`. -/
def isBlank (c : Char) : Bool :=
  let n := c.toNat
  (9 ≤ n && n ≤ 13) || n == 0x20 || n == 0x85 || n == 0xA0 || n == 0x1680 ||
    (0x2000 ≤ n && n ≤ 0x200A) || n == 0x2028 || n == 0x2029 || n == 0x202F || n == 0x205F ||
    n == 0x3000

def dropEndWhile {α : Type} (p : α → Bool) (l : List α) : List α :=
  (l.reverse.dropWhile p).reverse

def trimLeft (s : List Char) : List Char := s.dropWhile isBlank

def trimRight (s : List Char) : List Char := dropEndWhile isBlank s

def trim (s : List Char) : List Char := trimRight (trimLeft s)

def trimmed (s : String) : String := String.ofList (trim s.toList)

def trimmedRight (s : String) : String := String.ofList (trimRight s.toList)

/-- The first run of characters that are not blank, if there is one. -/
def firstWord? (s : List Char) : Option (List Char) :=
  match trimLeft s with
  | [] => none
  | c :: rest => some ((c :: rest).takeWhile (!isBlank ·))

end Vigil.Text
