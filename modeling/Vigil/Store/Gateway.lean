import Vigil.Clock.Timestamp
import Vigil.Service.Event
import Vigil.Store.Failure
import Vigil.Store.Migration

/-!
The gateway to the datastore. It has one connection. A statement that fails is tried once more on a
new one. The last list of services that could be loaded stands in for one that cannot.
-/

namespace Vigil.Store

/-- What befalls an attempt at a statement from outside. -/
structure Attempt where
  /-- Whether a connection can be made, if there is none. -/
  connects : Bool
  breaks : Breaks

def Attempt.sound : Attempt := ⟨true, .none⟩

def Attempt.offline : Attempt := ⟨false, .none⟩

structure Gateway where
  /-- The file of the datastore. -/
  path : String
  /-- Whether the connection stands. -/
  connected : Bool
  /-- The last list of services that could be loaded. -/
  cache : List Service
  /-- Whether the last statement reached the datastore. -/
  reachable : Bool
deriving DecidableEq, Repr

/-! ### Rows of services -/

/-- A service and its node as they stand in the tables. -/
structure ServiceRow where
  service : Int
  netbox : Int
  device : Option Int
  active : Int
  kind : String
  version : Option String
  address : String
  host : String
  up : String
deriving DecidableEq, Repr

/-- A row of a service and the row of its node, if their values are of the right kinds. -/
def ServiceRow.ofRows? (service netbox : Row) : Option ServiceRow :=
  match service, netbox with
  | [id, node, active, kind, version, up], [_, device, address, host, _] => do
    return {
      service := ← id.integer?
      netbox := ← node.integer?
      device := ← Cell.optional Cell.integer? device
      active := ← active.integer?
      kind := ← kind.text?
      version := ← Cell.optional Cell.text? version
      address := ← address.text?
      host := ← host.text?
      up := ← up.text? }
  | _, _ => none

def argumentOfRow? : Row → Option (Int × String × Option String)
  | [service, name, value] => do
    return (← service.integer?, ← name.text?, ← Cell.optional Cell.text? value)
  | _ => none

/-- The arguments of a service. Empty values count as missing. -/
def argumentsOf (all : List (Int × String × Option String)) (id : Int) : Keyed String String :=
  .ofList (all.filterMap fun (service, name, value) =>
    if service = id then (value.filter (· != "")).map fun v => (name, v) else none)

/-- The service of a row, if its address is one. The status is taken from the row only if asked
for. -/
def ServiceRow.service? (r : ServiceRow) (withStatus : Bool)
    (all : List (Int × String × Option String)) : Option Service :=
  (Net.Address.read? (Text.trimmed r.address).toList).map fun address => {
    id := r.service
    netbox := r.netbox
    device := r.device
    address
    host := r.host
    kind := r.kind
    arguments := argumentsOf all r.service
    status := if withStatus then .ofFlag r.up else .unknown
    version := r.version.filter (· != "")
    active := r.active != 0 }

/-! ### Statements -/

def selectArguments (b : Breaks) (db : Database) : Option (List (Int × String × Option String)) :=
  do
  let t ← b.part 0 (db.table? propertyLayout.name)
  t.rows.mapM argumentOfRow?

/-- The rows of a table whose first column holds a value. -/
def rowsOf (t : Table) (key : Cell) : List Row := t.rows.filter fun row => row.head? = some key

/-- All services with their nodes, by their numbers. -/
def selectServices (b : Breaks) (db : Database) : Option (List ServiceRow) := do
  let services ← b.part 0 (db.table? serviceLayout.name)
  let nodes ← db.table? netboxLayout.name
  (services.rows.flatMap fun row =>
    (rowsOf nodes (row.getD 1 .null)).map fun node => (row, node)).mapM fun (row, node) =>
      ServiceRow.ofRows? row node

def optionalNumber : Option Int → Cell
  | some n => .integer n
  | none => .null

def storeVersion (e : Event) (version : String) (b : Breaks) (db : Database) : Option Database :=
  (b.part 0 (db.update? serviceLayout.name "version" (.text version) (.integer e.service))).map
    (·.1)

/-- Take down an event and the status of its service, all or nothing. -/
def storeStatus (e : Event) (status : Status) (b : Breaks) (db : Database) : Option Database := do
  b.part 0 (some ())
  let (db, id) ← b.part 1 (db.insert? eventLayout.name [
    ("source", .text e.source), ("target", .text e.target), ("deviceid", optionalNumber e.device),
    ("netboxid", .integer e.netbox), ("subid", .integer e.service),
    ("time", .text e.time.columnText),
    ("eventtypeid", .text e.typeName), ("state", .text e.code), ("value", .integer e.value)])
  let (db, _) ← b.part 2 (db.insert? eventDetailLayout.name [
    ("eventqid", id), ("var", .text "descr"), ("val", .text e.info)])
  let (db, _) ← b.part 3 (db.update? serviceLayout.name "up" (.text status.flag)
    (.integer e.service))
  b.part 4 (some db)

namespace Gateway

def unopened (path : String) : StoreFailure := .connection
  ("Error occurred while creating a new object: Failed to connect to database: " ++
    "`Unable to open connection to local database " ++ path ++ ": 14`")

/-- Open a datastore and bring its tables up to date. -/
def open? (path : String) (a : Attempt) (now : Int) (db : Database) :
    Except StoreFailure Gateway × Database :=
  if !a.connects then (.error (unopened path), db)
  else
    let (db, done) := db.migrate (fun _ => a.breaks) now migrations
    if done then (.ok ⟨path, true, [], false⟩, db) else (.error (.migration default), db)

/-- Try a statement once, on a connection that stands or is made. -/
def attempt {α : Type} (g : Gateway) (statement : Breaks → Database → Option α) (a : Attempt)
    (db : Database) :
    Except StoreFailure (Option α) :=
  if g.connected || a.connects then .ok (statement a.breaks db) else .error (unopened g.path)

/-- Run a statement, and once more on a new connection if it fails. -/
def run {α : Type} (g : Gateway) (context : String) (statement : Breaks → Database → Option α)
    (first second : Attempt) (db : Database) : Except StoreFailure α × Gateway :=
  match g.attempt statement first db with
  | .error f => (.error f, { g with reachable := false })
  | .ok (some x) => (.ok x, { g with connected := true, reachable := true })
  | .ok none =>
    let g := { g with connected := false }
    match g.attempt statement second db with
    | .error f => (.error f, { g with reachable := false })
    | .ok (some x) => (.ok x, { g with connected := true, reachable := true })
    | .ok none => (.error (.query context default), { g with reachable := false })

/-- What befalls the two attempts at each of two statements. -/
abbrev Loading := (Attempt × Attempt) × (Attempt × Attempt)

def load (g : Gateway) (withStatus : Bool) (l : Loading) (db : Database) :
    Except StoreFailure (List Service) × Gateway :=
  match g.run "load service properties" selectArguments l.1.1 l.1.2 db with
  | (.error f, g) => (.error f, g)
  | (.ok arguments, g) =>
    match g.run "load services" selectServices l.2.1 l.2.2 db with
    | (.error f, g) => (.error f, g)
    | (.ok rows, g) => (.ok (rows.filterMap (·.service? withStatus arguments)), g)

/-- Load all services; if that fails, the last list that could be loaded stands in. -/
def fetch (g : Gateway) (withStatus : Bool) (l : Loading) (db : Database) :
    List Service × Gateway :=
  match g.load withStatus l db with
  | (.ok services, g) => (services, { g with cache := services })
  | (.error _, g) => (g.cache, g)

/-- Commit an event. Events from elsewhere are passed over. -/
def commit (g : Gateway) (e : Event) (first second : Attempt) (db : Database) :
    Except StoreFailure Unit × Gateway × Database :=
  if !Event.acceptedSources.contains e.source then (.ok (), g, db)
  else
    let (answer, g) := match e.change with
      | .version v => g.run "update service version" (storeVersion e v) first second db
      | .state s => g.run "commit state event" (storeStatus e s) first second db
    match answer with
    | .ok db => (.ok (), g, db)
    | .error f => (.error f, g, db)

end Gateway

end Vigil.Store
