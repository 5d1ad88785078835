/-!
JSON values, as far as the formats of this program look at them.
-/

namespace Vigil

inductive Json where
  | null
  | bool (b : Bool)
  /-- A number without fraction and exponent. -/
  | integer (n : Int)
  /-- Any other number, minus zero among them; its value is not kept. -/
  | real
  /-- A text; nothing if an escape in it stands for half a character. -/
  | string (s : Option String)
  | array (items : List Json)
  | object (members : List (Option String × Json))
deriving Repr, Inhabited

end Vigil
