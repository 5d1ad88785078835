import Vigil.Toml.Value

/-!
Putting values into tables. A table is written in one place: what has a header or braces is not
extended by dotted keys, what was made by dotted keys gets no header, and no key stands twice.
-/

namespace Vigil.Toml

abbrev Entries := List (String × Value)

def Entries.get? (es : Entries) (k : String) : Option Value := (es.find? (·.1 == k)).map (·.2)

def Entries.set (es : Entries) (k : String) (v : Value) : Entries :=
  if es.any (·.1 == k) then es.map fun e => if e.1 == k then (k, v) else e else es ++ [(k, v)]

/-- Go down a path from a table and change what is there. Tables that are missing are made, with the
origin `made`; of tables with headers the last one is meant. A dotted key passes only through tables
that are still open. -/
def descend (made : Origin) (change : Origin → Entries → Option Value) :
    List String → Origin → Entries → Option Value
  | [], origin, es => change origin es
  | k :: path, origin, es =>
    match es.get? k with
    | none => (descend made change path made []).map fun v => .table origin (es.set k v)
    | some (.table o inner) =>
      if o == .braces || (made == .dotted && !o.isOpen) then none
      else (descend made change path o inner).map fun v => .table origin (es.set k v)
    | some (.tables items) =>
      match items.getLast? with
      | some (.table o inner) =>
        (descend made change path o inner).map fun v =>
          .table origin (es.set k (.tables (items.dropLast ++ [v])))
      | _ => none
    | some _ => none

/-- Put a value at a new key. Behind a dotted key only a table made by dotted keys takes it. -/
def addEntry (isDotted : Bool) (k : String) (v : Value) (origin : Origin) (es : Entries) :
    Option Value :=
  if (origin == .dotted) != isDotted || (es.get? k).isSome then none
  else some (.table origin (es ++ [(k, v)]))

def addDotted (path : List String) (v : Value) (origin : Origin) (es : Entries) : Option Value :=
  match path.getLast? with
  | none => none
  | some k => descend .dotted (addEntry (1 < path.length) k v) path.dropLast origin es

def tableOf (origin : Origin) (start : Entries) (items : List (List String × Value)) :
    Option Value :=
  items.foldlM (fun t item =>
    match t with
    | .table o es => addDotted item.1 item.2 o es
    | _ => none) (.table origin start)

/-- A header with the entries below it. -/
structure Section where
  path : List String
  /-- Whether the header adds one more table to those of its name. -/
  isItem : Bool
  items : List (List String × Value)

/-- Put a section into the table that holds its last key. -/
def Section.addTo (s : Section) (k : String) (origin : Origin) (es : Entries) : Option Value :=
  match s.isItem, es.get? k with
  | true, none => do
    let t ← tableOf .header [] s.items
    some (.table origin (es.set k (.tables [t])))
  | true, some (.tables ts) => do
    let t ← tableOf .header [] s.items
    some (.table origin (es.set k (.tables (ts ++ [t]))))
  | false, none => do
    let t ← tableOf .header [] s.items
    some (.table origin (es.set k t))
  | false, some (.table .implied inner) => do
    let t ← tableOf .header inner s.items
    some (.table origin (es.set k t))
  | _, _ => none

/-- The table of a document: the entries in front of all headers, and the sections. -/
def ofSections (front : List (List String × Value)) (sections : List Section) : Option Value := do
  let root ← tableOf .header [] front
  sections.foldlM (fun t s =>
    match t, s.path.getLast? with
    | .table o es, some k => descend .implied (s.addTo k) s.path.dropLast o es
    | _, _ => none) root

end Vigil.Toml
