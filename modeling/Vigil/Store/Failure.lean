import Vigil.Diagnosis

/-!
Why the datastore could not be used.
-/

namespace Vigil

inductive StoreFailure where
  /-- The datastore could not be opened. -/
  | opening (cause : Diagnosis)
  /-- No set of connections could be made. -/
  | pool (text : String)
  /-- No connection was to be had. -/
  | connection (text : String)
  /-- A statement failed; `context` names it. -/
  | query (context : String) (cause : Diagnosis)
  /-- The tables could not be brought up to date. -/
  | migration (cause : Diagnosis)
deriving DecidableEq, Repr

namespace StoreFailure

def message : StoreFailure → String
  | opening cause => "failed to open datastore: " ++ cause.text
  | pool text => "failed to build connection pool: " ++ text
  | connection text => "no datastore connection available: " ++ text
  | query context cause => context ++ " failed: " ++ cause.text
  | migration cause => "schema migration failed: " ++ cause.fullLine

def diagnosis (f : StoreFailure) : Diagnosis :=
  match f with
  | opening cause | query _ cause => .caused f.message cause
  | _ => .ofText f.message

end StoreFailure

end Vigil
