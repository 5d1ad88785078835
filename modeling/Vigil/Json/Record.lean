import Vigil.Json.Basic

/-!
Records in JSON: objects with known fields, in which other members are ignored and no field stands
twice, or arrays of exactly the fields in order.
-/

namespace Vigil.Json

/-- The only value among the members of a name. -/
def unique? (members : List (Option String × Json)) (name : String) : Option (Option Json) :=
  match members.filter (·.1 == some name) with
  | [] => some none
  | [m] => some (some m.2)
  | _ => none

/-- The values of a record's fields, missing ones as nothing. -/
def fields? (names : List String) : Json → Option (List (Option Json))
  | object members => if members.all (·.1.isSome) then names.mapM (unique? members) else none
  | array items => if items.length == names.length then some (items.map some) else none
  | _ => none

/-- The name and value of a variant: an object with one member. -/
def variant? : Json → Option (String × Json)
  | object [(some name, v)] => some (name, v)
  | _ => none

def text? : Json → Option String
  | string s => s
  | _ => none

def bool? : Json → Option Bool
  | bool b => some b
  | _ => none

/-- An integer of 64 bits. -/
def integer? : Json → Option Int
  | integer n => if -(Nat.pow 2 63 : Nat) ≤ n && n < (Nat.pow 2 63 : Nat) then some n else none
  | _ => none

/-- A field that may be missing or null. -/
def optional? {α : Type} (read : Json → Option α) : Option Json → Option (Option α)
  | none | some null => some none
  | some v => (read v).map some

/-- Members with texts as values; of two with the same name the later one counts. -/
def texts? : Json → Option (List (String × String))
  | object members => members.mapM fun (name, v) => do some (← name, ← v.text?)
  | _ => none

end Vigil.Json
