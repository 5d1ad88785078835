/-!
Paths as texts: their components, the path above, and the ending of the file name. Empty components
and single points count for nothing, but for a point at the very beginning.
-/

namespace Vigil.Path

/-- A component of a path, and how many characters of the path end with it. -/
structure Component where
  name : String
  stop : Nat
deriving DecidableEq, Repr, Inhabited

def isAbsolute (p : String) : Bool := p.toList.head? == some '/'

/-- The names between the slashes of a path, some of them perhaps empty. -/
def names (p : String) : List String := (p.toList.splitOn '/').map String.ofList

/-- The parts of a path between slashes, each with the count of characters up to its end. -/
def parts (p : String) : List Component :=
  ((names p).foldl (fun (l, start) name =>
    let stop := start + name.length
    (⟨name, stop⟩ :: l, stop + 1)) (([] : List Component), 0)).1.reverse

def components (p : String) : List Component :=
  match parts p with
  | [] => []
  | first :: rest =>
    (if first.name == "" then [] else [first]) ++ rest.filter fun c => c.name != "" && c.name != "."

def upTo (p : String) (stop : Nat) : String := String.ofList (p.toList.take stop)

def parent? (p : String) : Option String :=
  match (components p).reverse with
  | [] => none
  | [_] => some (if isAbsolute p then "/" else "")
  | _ :: above :: _ => some (upTo p above.stop)

/-- The last component, if it is the name of a file. -/
def fileName? (p : String) : Option Component :=
  (components p).getLast?.filter fun c => c.name != "." && c.name != ".."

/-- The name of a file in two parts, the second one behind the last point. A point at the beginning
divides nothing. -/
def splitName (name : String) : String × Option String :=
  let l := name.toList.reverse
  let ending := l.takeWhile (· != '.')
  match l.dropWhile (· != '.') with
  | [] | [_] => (name, none)
  | _ :: stem => (String.ofList stem.reverse, some (String.ofList ending.reverse))

def ending? (p : String) : Option String := (fileName? p).bind fun c => (splitName c.name).2

def withEnding (p ending : String) : String :=
  match fileName? p with
  | none => p
  | some c => upTo p (c.stop - c.name.length + (splitName c.name).1.length) ++ "." ++ ending

def join (p q : String) : String :=
  if isAbsolute q then q
  else if p == "" || p.toList.getLast? == some '/' then p ++ q
  else p ++ "/" ++ q

end Vigil.Path
