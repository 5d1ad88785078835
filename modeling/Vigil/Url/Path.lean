import Vigil.Url.Percent

/-!
Paths of web addresses: segments between slashes, with dot segments resolved and characters encoded.
-/

namespace Vigil.Url

def isSlash (c : Char) : Bool := c == '/' || c == '\\'

/-- A dot, perhaps in its encoded form, at the front of a text; and the rest. -/
def takeDot? : List Char → Option (List Char)
  | '.' :: rest => some rest
  | '%' :: '2' :: 'e' :: rest | '%' :: '2' :: 'E' :: rest => some rest
  | _ => none

def isDot (s : List Char) : Bool := takeDot? s == some []

def isDotDot (s : List Char) : Bool := (takeDot? s).bind takeDot? == some []

/-- Whether a segment names a drive: such a segment is not left again. -/
def isDrive : List Char → Bool
  | [c, d] => c.isAlpha && (d == ':' || d == '|')
  | _ => false

/-- Leave the last segment that has been entered; `entered` has the last one first. -/
def leave : List (List Char) → List (List Char)
  | s :: rest => if isDrive s then s :: rest else rest
  | [] => []

/-- Resolve dot segments. What stands last is a segment also if it is empty, and a dot segment that
stands last leaves an empty one. -/
def resolve (entered : List (List Char)) : List (List Char) → List (List Char)
  | [] => entered.reverse
  | [last] =>
    if isDotDot last then (leave entered).reverse ++ [[]]
    else if isDot last then entered.reverse ++ [[]]
    else entered.reverse ++ [last]
  | s :: rest =>
    if isDotDot s then resolve (leave entered) rest
    else if isDot s then resolve entered rest
    else resolve (s :: entered) rest

/-- The segments of a path, without the slash in front. -/
def readPath (s : List Char) : List (List Char) :=
  resolve [] ((s.splitOnP isSlash).map (percentEncode encodedInPath))

/-- A path as it is written: a slash in front of every segment. -/
def pathText (segments : List (List Char)) : List Char := segments.flatMap ('/' :: ·)

def resourceText (segments : List (List Char)) (query : Option (List Char)) : String :=
  String.ofList (pathText segments ++ match query with
    | some q => '?' :: q
    | none => [])

end Vigil.Url
