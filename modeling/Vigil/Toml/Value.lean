import Vigil.Decimal.Binary64

/-!
TOML values. A table remembers how it came about, since that decides what may still be added to it.
-/

namespace Vigil.Toml

open Vigil.Decimal

/-- How a table came about. -/
inductive Origin where
  /-- It has a header of its own. -/
  | header
  /-- It lies on the way of a header. -/
  | implied
  /-- It lies on the way of a dotted key. -/
  | dotted
  /-- It is written in braces. -/
  | braces
deriving DecidableEq, Repr

/-- Whether a table has only been passed through so far. -/
def Origin.isOpen : Origin → Bool
  | implied | dotted => true
  | header | braces => false

inductive Value where
  | string (s : String)
  | integer (n : Int)
  | float (x : Binary64)
  | boolean (b : Bool)
  /-- A date, a time, or both; it is not kept which. -/
  | moment
  | array (items : List Value)
  /-- Tables of one name that have headers. -/
  | tables (items : List Value)
  | table (origin : Origin) (entries : List (String × Value))
deriving Repr, Inhabited

end Vigil.Toml
