import Vigil.Store.Cell

/-!
Tables: rows of values in the order of their keys. A key is either the number in the first column,
which a table makes up if it is not given, or the pair of the first two columns.
-/

namespace Vigil.Store

structure Column where
  name : String
  affinity : Affinity
  /-- Whether it may not be empty. -/
  required : Bool
  /-- What stands in it if nothing is given. -/
  standard : Cell
deriving DecidableEq, Repr

/-- What tells the rows of a table apart. -/
inductive Key where
  /-- The number in the first column. -/
  | number
  /-- The number in the first column; a number that has once been used is not made up again. -/
  | serial
  /-- The first two columns. -/
  | pair
deriving DecidableEq, Repr

/-- Values of a column are keys of another table, and a row goes with the row that it refers to. -/
structure Reference where
  column : String
  table : String
deriving DecidableEq, Repr

structure Layout where
  name : String
  columns : List Column
  key : Key
  references : List Reference
deriving DecidableEq, Repr

/-- A row of a table, one value for each column. -/
abbrev Row := List Cell

structure Table where
  layout : Layout
  rows : List Row
  /-- The greatest number that has ever been a key, if numbers are not made up again. -/
  counter : Int
deriving DecidableEq, Repr

namespace Layout

def position? (l : Layout) (column : String) : Option Nat := l.columns.findIdx? (·.name == column)

def keyOf (l : Layout) (row : Row) : Row :=
  match l.key with
  | .pair => row.take 2
  | _ => row.take 1

def isNumbered (l : Layout) : Bool := l.key != .pair

/-- Whether no required column of a row is empty. -/
def isComplete (l : Layout) (row : Row) : Bool :=
  (l.columns.zip row).all fun (c, v) => !c.required || v != .null

def isKeyed (l : Layout) (row : Row) : Bool :=
  !l.isNumbered || (row.head?.bind Cell.integer?).isSome

end Layout

namespace Table

def empty (l : Layout) : Table := ⟨l, [], 0⟩

def column (t : Table) (i : Nat) : List Cell := t.rows.map fun row => row.getD i .null

/-- The numbers in the first column. -/
def numbers (t : Table) : List Int := (t.column 0).filterMap Cell.integer?

/-- A number for a new row, one above the greatest, unless that is the greatest number of all. -/
def freshNumber? (t : Table) : Option Int :=
  let next : Int := match t.numbers.max? with
    | some n => n + 1
    | none => 1
  let next := if t.layout.key = .serial then max next (t.counter + 1) else next
  if next ≤ Cell.maxInteger then some next else none

def hasKey (t : Table) (key : Row) : Bool := t.rows.any fun row => t.layout.keyOf row == key

/-- Put a row in its place among rows in the order of their keys. -/
def placeRow (l : Layout) (row : Row) : List Row → List Row
  | [] => [row]
  | other :: rest =>
    if Cell.rowPrecedes (l.keyOf row) (l.keyOf other) then row :: other :: rest
    else other :: placeRow l row rest

/-- A new row of given values, in which the number of the row may be missing. -/
def newRow? (t : Table) (given : List (String × Cell)) : Option Row :=
  if given.isEmpty || given.any fun (name, _) => (t.layout.position? name).isNone then none
  else
    let row := t.layout.columns.map fun c =>
      Cell.convert c.affinity ((given.lookup c.name).getD c.standard)
    match row with
    | .null :: rest =>
      if t.layout.isNumbered then t.freshNumber?.map fun n => .integer n :: rest else some row
    | _ => some row

/-- Take in a row, unless it is incomplete or its key is taken. -/
def insertRow? (t : Table) (row : Row) : Option Table :=
  if t.layout.isComplete row && t.layout.isKeyed row && !t.hasKey (t.layout.keyOf row) then
    some { t with
      rows := placeRow t.layout row t.rows
      counter := ((row.head?.bind Cell.integer?).map (max t.counter)).getD t.counter }
  else none

/-- Whether the first column of a row holds a value. -/
def isAt (t : Table) (key : Cell) (row : Row) : Bool :=
  match t.layout.columns.head?, row.head? with
  | some c, some v => v == Cell.convert c.affinity key && v != .null
  | _, _ => false

/-- The rows whose first column holds a value. -/
def rowsAt (t : Table) (key : Cell) : List Row := t.rows.filter (t.isAt key)

/-- Set a column in the rows whose first column holds a value, unless a row becomes incomplete or
two rows get the same key. -/
def setAt? (t : Table) (column : String) (value key : Cell) : Option Table := do
  let i ← t.layout.position? column
  let c ← t.layout.columns[i]?
  let changed := (t.rowsAt key).map fun row => row.set i (Cell.convert c.affinity value)
  let kept := t.rows.filter fun row => !t.isAt key row
  changed.foldlM (fun t row => do return { (← t.insertRow? row) with counter := t.counter })
    { t with rows := kept }

def remove (t : Table) (p : Row → Bool) : Table :=
  { t with rows := t.rows.filter fun row => !p row }

end Table

end Vigil.Store
