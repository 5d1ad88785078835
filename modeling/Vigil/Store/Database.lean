import Vigil.Keyed
import Vigil.Store.Table

/-!
Databases: tables that refer to each other. A statement either takes effect as a whole or fails and
leaves everything as it is.
-/

namespace Vigil.Store

structure Database where
  tables : Keyed String Table
  /-- The indexes, and the table of each. -/
  indexes : Keyed String String
  /-- Whether the file of the database can still be written. -/
  writable : Bool
deriving DecidableEq, Repr

/-- What is to be there. -/
inductive Definition where
  | table (layout : Layout)
  | index (name table : String)
deriving DecidableEq, Repr

namespace Database

def empty : Database := ⟨.empty, .empty, true⟩

instance : Inhabited Database := ⟨empty⟩

def table? (db : Database) (name : String) : Option Table := db.tables.get? name

def setTable (db : Database) (t : Table) : Database :=
  { db with tables := db.tables.insert t.layout.name t }

/-- Nothing can be written any more. -/
def lose (db : Database) : Database := { db with writable := false }

/-! ### Definitions -/

/-- Make what is to be there, if it is missing. -/
def define? (db : Database) : Definition → Option Database
  | .table l =>
    if db.tables.contains l.name then some db
    else if db.writable then some (db.setTable (.empty l)) else none
  | .index name table =>
    if db.indexes.contains name then some db
    else if db.writable && db.tables.contains table then
      some { db with indexes := db.indexes.insert name table }
    else none

/-! ### References -/

/-- Whether the tables that a table refers to are there. -/
def hasParents (db : Database) (l : Layout) : Bool :=
  l.references.all fun r => db.tables.contains r.table

/-- Whether a reference of a row leads to a row. -/
def leads (db : Database) (l : Layout) (row : Row) (r : Reference) : Bool :=
  match (l.position? r.column).bind (row[·]?), db.table? r.table with
  | some v, some parent => v == .null || (parent.column 0).contains v
  | _, _ => false

/-- Tables that refer to a table, each with the place of the column that does. -/
def children (db : Database) (name : String) : List (Table × Nat) :=
  db.tables.values.flatMap fun t =>
    (t.layout.references.filter (·.table == name)).filterMap fun r =>
      (t.layout.position? r.column).map fun i => (t, i)

/-- Whether every row that refers to one of some keys of a table still finds it there. -/
def isUpheld (db : Database) (name : String) (keys : List Cell) : Bool :=
  (db.children name).all fun (t, i) =>
    (t.column i).all fun v => !keys.contains v ||
      ((db.table? name).map fun parent => (parent.column 0).contains v).getD false

/-- Remove rows of a table, and all rows that refer to them. References go in no circles, so that no
chain of them is longer than the number of tables. -/
def removeRows : (depth : Nat) → Database → String → (Row → Bool) → Database
  | 0, db, _, _ => db
  | depth + 1, db, name, p =>
    match db.table? name with
    | none => db
    | some t =>
      let keys := (t.rows.filter p).map fun row => row.headD .null
      (db.children name).foldl
        (fun db (child, i) =>
          removeRows depth db child.layout.name fun row => keys.contains (row.getD i .null))
        (db.setTable (t.remove p))

/-! ### Statements -/

/-- Insert a row into a table; the key of the row is told. -/
def insert? (db : Database) (name : String) (given : List (String × Cell)) :
    Option (Database × Cell) := do
  let t ← db.table? name
  let row ← t.newRow? given
  let t ← t.insertRow? row
  if db.writable && t.layout.references.all (db.leads t.layout row) then
    return (db.setTable t, row.headD .null)
  else none

/-- Set a column in the rows of a table whose first column holds a value; their number is told. -/
def update? (db : Database) (name column : String) (value key : Cell) : Option (Database × Nat) :=
  do
  let t ← db.table? name
  let next ← t.setAt? column value key
  let references := t.layout.references.filter (·.column == column)
  let changed := t.rowsAt key
  let db' := db.setTable next
  if (changed.isEmpty || db.writable) && references.all (fun r => db.tables.contains r.table) &&
      references.all (fun r => next.rows.all fun row => db.leads t.layout row r) &&
      db'.isUpheld name (changed.map fun row => row.headD .null) then
    return (db', changed.length)
  else none

/-- Delete the rows of a table whose first column holds a value, and all that refer to them. -/
def delete? (db : Database) (name : String) (key : Cell) : Option (Database × Nat) := do
  let t ← db.table? name
  let gone := t.rowsAt key
  if (gone.isEmpty || db.writable) && db.hasParents t.layout then
    return (db.removeRows (db.tables.size + 1) name (t.isAt key), gone.length)
  else none

/-- Drop a table with its indexes, and all rows that refer to it. -/
def drop? (db : Database) (name : String) : Option Database := do
  let _ ← db.table? name
  if db.writable then
    let db := db.removeRows (db.tables.size + 1) name fun _ => true
    return { db with
      tables := db.tables.erase name
      indexes := db.indexes.filter fun _ t => t != name }
  else none

end Database

end Vigil.Store
