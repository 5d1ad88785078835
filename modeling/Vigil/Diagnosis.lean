/-!
Failures with their causes. Main definition: one line of text for a failure and all its causes,
where a cause that the text already ends with is not said again.
-/

namespace Vigil

/-- What a failure says, and what its causes say, from the nearest to the root. -/
structure Diagnosis where
  text : String
  causes : List String
deriving DecidableEq, Repr, Inhabited

namespace Diagnosis

def ofText (s : String) : Diagnosis := ⟨s, []⟩

/-- A failure that another one caused. -/
def caused (text : String) (cause : Diagnosis) : Diagnosis := ⟨text, cause.text :: cause.causes⟩

def endsWith (s cause : String) : Bool := cause.toList.isSuffixOf s.toList

/-- Say a cause after what has been said, unless that ends with it. -/
def addCause (said cause : String) : String :=
  if endsWith said cause then said else said ++ ": " ++ cause

def line (d : Diagnosis) : String := d.causes.foldl addCause d.text

/-- A failure and all its causes on one line, with nothing left out. -/
def fullLine (d : Diagnosis) : String :=
  d.causes.foldl (fun said cause => said ++ ": " ++ cause) d.text

end Diagnosis

end Vigil
