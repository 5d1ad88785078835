import Vigil.Store.Database

/-!
The tables of the datastore and how they are brought up to date, step by step. Each step is kept in
a table of its own, so that it is made only once.

A statement may break from outside at any point. What a broken statement has begun is undone.
-/

namespace Vigil.Store

/-! ### Statements that break -/

/-- Which parts of a statement break from outside. -/
abbrev Breaks := Nat → Bool

def Breaks.none : Breaks := fun _ => false

/-- A part of a statement, unless it breaks. -/
def Breaks.part {α : Type} (b : Breaks) (i : Nat) (x : Option α) : Option α :=
  if b i then .none else x

/-! ### Tables -/

def numberColumn (name : String) (required : Bool) (standard : Cell) : Column :=
  ⟨name, .integer, required, standard⟩

def textColumn (name : String) (required : Bool) (standard : Cell) : Column :=
  ⟨name, .text, required, standard⟩

def netboxLayout : Layout := {
  name := "netbox"
  columns := [numberColumn "netboxid" false .null, numberColumn "deviceid" false .null,
    textColumn "ip" true .null, textColumn "sysname" true .null, textColumn "up" true (.text "y")]
  key := .serial
  references := [] }

def serviceLayout : Layout := {
  name := "service"
  columns := [numberColumn "serviceid" false .null, numberColumn "netboxid" true .null,
    numberColumn "active" true (.integer 1), textColumn "handler" true .null,
    textColumn "version" false .null, textColumn "up" true (.text "y")]
  key := .serial
  references := [⟨"netboxid", "netbox"⟩] }

def propertyLayout : Layout := {
  name := "serviceproperty"
  columns := [numberColumn "serviceid" true .null, textColumn "property" true .null,
    textColumn "value" false .null]
  key := .pair
  references := [⟨"serviceid", "service"⟩] }

def eventLayout : Layout := {
  name := "eventq"
  columns := [numberColumn "eventqid" false .null, textColumn "source" true .null,
    textColumn "target" true .null, numberColumn "deviceid" false .null,
    numberColumn "netboxid" false .null, numberColumn "subid" false .null,
    textColumn "time" true .null, textColumn "eventtypeid" true .null,
    textColumn "state" true (.text "x"), numberColumn "value" true (.integer 100),
    numberColumn "severity" true (.integer 50)]
  key := .serial
  references := [] }

def eventDetailLayout : Layout := {
  name := "eventqvar"
  columns := [numberColumn "eventqid" true .null, textColumn "var" true .null,
    textColumn "val" true .null]
  key := .pair
  references := [⟨"eventqid", "eventq"⟩] }

/-- The steps that have been made. -/
def migrationLayout : Layout := {
  name := "schema_migrations"
  columns := [numberColumn "version" false .null, numberColumn "applied_at" true .null,
    textColumn "description" false .null]
  key := .number
  references := [] }

/-! ### Steps -/

/-- A step towards the tables that the program needs. -/
structure Migration where
  version : Int
  description : String
  definitions : List Definition
deriving DecidableEq, Repr

def migrations : List Migration := [
  { version := 1
    description := "Inventory tables: netbox, service, serviceproperty"
    definitions := [.table netboxLayout, .table serviceLayout, .table propertyLayout,
      .index "idx_service_netboxid" "service"] },
  { version := 2
    description := "Event queue tables: eventq, eventqvar"
    definitions := [.table eventLayout, .table eventDetailLayout,
      .index "idx_eventq_target" "eventq"] }]

namespace Database

/-- Make what is to be there, part by part from number `i` on. -/
def defineAll? (b : Breaks) : (i : Nat) → List Definition → Database → Option Database
  | _, [], db => some db
  | i, d :: rest, db => (b.part i (db.define? d)).bind (defineAll? b (i + 1) rest)

/-- Make a step and keep it. All its parts take effect together. -/
def makeStep? (b : Breaks) (now : Int) (m : Migration) (db : Database) : Option Database := do
  b.part 0 (some ())
  let db ← db.defineAll? b 1 m.definitions
  let n := m.definitions.length
  let (db, _) ← b.part (n + 1) (db.insert? migrationLayout.name [
    ("version", .integer m.version), ("applied_at", .integer now),
      ("description", .text m.description)])
  b.part (n + 2) (some db)

/-- The greatest version of a step that has been made; zero if there is none. -/
def schemaVersion (db : Database) : Int :=
  let versions := ((db.table? migrationLayout.name).map Table.numbers).getD []
  Int.bmod (versions.max?.getD 0) (Nat.pow 2 32)

/-- Make some steps in turn, up to the first that fails. What has been made stays. -/
def applyAll (b : Int → Breaks) (now : Int) : List Migration → Database → Database × Bool
  | [], db => (db, true)
  | m :: rest, db =>
    match db.makeStep? (b m.version) now m with
    | some db => applyAll b now rest db
    | none => (db, false)

/-- Make all steps that have not been made, and tell whether that succeeded. The table that keeps
them is made first; reading the version is the next part that may break. -/
def migrate (b : Int → Breaks) (now : Int) (all : List Migration) (db : Database) :
    Database × Bool :=
  match (b 0).part 0 (db.define? (.table migrationLayout)) with
  | none => (db, false)
  | some db =>
    match (b 0).part 1 (some db.schemaVersion) with
    | none => (db, false)
    | some version => db.applyAll b now (all.filter fun m => version < m.version)

end Database

end Vigil.Store
