import Vigil.Proofs.Store.Known

/-!
What a list of services that is loaded from the datastore says of them.

Main definition: `Store.Database.Backs`, the datastore knows what a service says. Main statements:
`Store.ServiceRow.ofRows?_eq_some`, from which rows a service is read;
`Store.Gateway.backs_of_load`, the datastore knows what each service in a list that comes from it
says.
-/

namespace Vigil.Store

/-! ### What is known, as services have it -/

def Cell.knownStatus (c : Cell) : Status := .ofFlag (c.text?.getD "")

/-- The version that is known; an empty one counts as none. -/
def Cell.knownVersion (c : Cell) : Option String := c.text?.filter (· != "")

theorem Cell.knownStatus_flag {s : Status} (known : s ≠ .unknown) :
    (Cell.text s.flag).knownStatus = s := by
  cases s with
  | up => rfl
  | down => rfl
  | unknown => exact absurd rfl known

theorem Cell.knownStatus_ne (c : Cell) : c.knownStatus ≠ .unknown := by
  unfold knownStatus Status.ofFlag
  split
  · decide
  · decide

/-- Where all values can be read, what has been read are these values. -/
theorem filterMap_of_mapM {α β : Type} {f : α → Option β} {l : List α} {l' : List β}
    (done : l.mapM f = some l') : l' = l.filterMap f ∧ ∀ a ∈ l, ∃ b, f a = some b := by
  induction l generalizing l' with
  | nil =>
      cases done
      exact ⟨rfl, List.forall_mem_nil _⟩
  | cons a rest ih =>
      simp only [List.mapM_cons, Option.bind_eq_bind, Option.bind_eq_some_iff, Option.pure_def,
        Option.some.injEq] at done
      obtain ⟨first, here, more, tail, rfl⟩ := done
      obtain ⟨rfl, all⟩ := ih tail
      exact ⟨(List.filterMap_cons_some here).symm, List.forall_mem_cons.mpr ⟨⟨first, here⟩, all⟩⟩

theorem mem_of_mapM {α β : Type} {f : α → Option β} {l : List α} {l' : List β}
    (done : l.mapM f = some l') {b : β} (mem : b ∈ l') : ∃ a ∈ l, f a = some b :=
  List.mem_filterMap.mp ((filterMap_of_mapM done).1 ▸ mem)

/-! ### Reading rows -/

namespace Cell

@[simp] theorem integer?_eq_some {c : Cell} {n : Int} : c.integer? = some n ↔ c = .integer n := by
  cases c <;> simp [integer?]

@[simp] theorem text?_eq_some {c : Cell} {s : String} : c.text? = some s ↔ c = .text s := by
  cases c <;> simp [text?]

def optionalText : Option String → Cell
  | some s => .text s
  | none => .null

@[simp] theorem text?_optionalText (s : Option String) : (optionalText s).text? = s := by
  cases s <;> rfl

@[simp] theorem optional_integer?_eq_some {c : Cell} {n : Option Int} :
    optional integer? c = some n ↔ c = optionalNumber n := by
  cases c <;> cases n <;> simp [optional, integer?, optionalNumber]

@[simp] theorem optional_text?_eq_some {c : Cell} {s : Option String} :
    optional text? c = some s ↔ c = optionalText s := by
  cases c <;> cases s <;> simp [optional, text?, optionalText]

end Cell

/-- The two rows from which a service is read. -/
theorem ServiceRow.ofRows?_eq_some {service node : Row} {r : ServiceRow} :
    ServiceRow.ofRows? service node = some r ↔
      service = [.integer r.service, .integer r.netbox, .integer r.active, .text r.kind,
        Cell.optionalText r.version, .text r.up] ∧
      ∃ key flag, node = [key, optionalNumber r.device, .text r.address, .text r.host, flag] := by
  constructor
  · intro read
    unfold ServiceRow.ofRows? at read
    split at read
    · simp only [Option.bind_eq_bind, Option.bind_eq_some_iff, Option.pure_def, Option.some.injEq,
        Cell.integer?_eq_some, Cell.text?_eq_some, Cell.optional_integer?_eq_some,
        Cell.optional_text?_eq_some] at read
      obtain ⟨_, rfl, _, rfl, _, rfl, _, rfl, _, rfl, _, rfl, _, rfl, _, rfl, _, rfl, rfl⟩ := read
      exact ⟨rfl, _, _, rfl⟩
    · cases read
  · rintro ⟨rfl, key, flag, rfl⟩
    obtain ⟨service, netbox, device, active, kind, version, address, host, up⟩ := r
    cases device <;> cases version <;> rfl

/-- The only rows that are arguments. -/
theorem argumentOfRow?_eq_some {row : Row} {id : Int} {name : String} {value : Option String} :
    argumentOfRow? row = some (id, name, value) ↔
      row = [.integer id, .text name, Cell.optionalText value] := by
  constructor
  · intro read
    unfold argumentOfRow? at read
    split at read
    · simp only [Option.bind_eq_bind, Option.bind_eq_some_iff, Option.pure_def, Option.some.injEq,
        Cell.integer?_eq_some, Cell.text?_eq_some, Cell.optional_text?_eq_some, Prod.mk.injEq]
          at read
      obtain ⟨_, rfl, _, rfl, _, rfl, rfl, rfl, rfl⟩ := read
      rfl
    · cases read
  · rintro rfl
    cases value <;> rfl

/-! ### What is known of services in a list -/

namespace Database

/-- The datastore knows what a service says of its version and, if it has been asked for that, of
its status. -/
def Backs (db : Database) (full : Bool) (s : Service) : Prop :=
  ∃ flag version, db.known? .up s.id = some flag ∧ db.known? .version s.id = some version ∧
    s.status = (if full then flag.knownStatus else .unknown) ∧ s.version = version.knownVersion

/-- The rows of services are what is known of them. -/
theorem Regular.known?_of_selected {db : Database} (regular : db.Regular) {b : Breaks}
    {rows : List ServiceRow} (selected : selectServices b db = some rows) {r : ServiceRow}
    (mem : r ∈ rows) :
    db.known? .up r.service = some (.text r.up) ∧
      db.known? .version r.service = some (Cell.optionalText r.version) := by
  simp only [selectServices, Option.bind_eq_bind, Option.bind_eq_some_iff] at selected
  obtain ⟨services, found, nodes, -, read⟩ := selected
  have found := part_eq_some found
  obtain ⟨⟨row, node⟩, inside, made⟩ := mem_of_mapM read mem
  obtain ⟨row', held, pair⟩ := List.mem_flatMap.mp inside
  obtain ⟨node', -, same⟩ := List.mem_map.mp pair
  cases same
  have shape := (ServiceRow.ofRows?_eq_some.mp made).1
  change row = _ at shape
  have layout := regular.planned serviceLayout (by simp [plan]) services found
  have numbered : services.layout.isNumbered = true := by rw [layout]; rfl
  -- There is one row at the number of the service.
  have one : services.rowsAt (.integer r.service) = [row] := by
    have here : row ∈ services.rowsAt (.integer r.service) := by
      refine Table.mem_rowsAt.mpr ⟨held, ?_⟩
      simp [Table.isAt, layout, serviceLayout, numberColumn, shape, Cell.convert]
    have length := (regular.regular _ services found).length_rowsAt numbered (.integer r.service)
    rcases rows : services.rowsAt (.integer r.service) with _ | ⟨other, _ | ⟨another, rest⟩⟩
    · simp [rows] at here
    · rw [rows] at here
      rw [List.mem_singleton.mp here]
    · simp [rows] at length
  constructor
  · simp only [known?, found, Option.bind_some, Table.cell?, one, layout]
    rw [shape]
    rfl
  · simp only [known?, found, Option.bind_some, Table.cell?, one, layout]
    rw [shape]
    rfl

/-- A list of services that comes from the datastore says what the datastore knows. -/
theorem Regular.backs_of_selected {db : Database} (regular : db.Regular) {b : Breaks}
    {rows : List ServiceRow} (selected : selectServices b db = some rows) (full : Bool)
    (arguments : List (Int × String × Option String)) :
    ∀ s ∈ rows.filterMap (·.service? full arguments), db.Backs full s := by
  intro s mem
  obtain ⟨r, inside, made⟩ := List.mem_filterMap.mp mem
  obtain ⟨address, -, rfl⟩ := Option.map_eq_some_iff.mp made
  obtain ⟨flag, version⟩ := regular.known?_of_selected selected inside
  refine ⟨_, _, flag, version, rfl, ?_⟩
  rw [Cell.knownVersion, Cell.text?_optionalText]

end Database

namespace Gateway

variable {g : Gateway} {db : Database} {full : Bool} {l : Loading} {services : List Service}

/-- To load services is to select their arguments and their rows. -/
theorem selected_of_load (loaded : (g.load full l db).1 = .ok services) :
    ∃ b b' arguments rows, selectArguments b db = some arguments ∧
    selectServices b' db = some rows ∧
      services = rows.filterMap (·.service? full arguments) := by
  unfold load at loaded
  split at loaded
  · cases loaded
  · rename_i arguments _ first
    split at loaded
    · cases loaded
    · rename_i rows _ second
      cases loaded
      obtain ⟨b, given⟩ := statement_of_run (congrArg Prod.fst first)
      obtain ⟨b', selected⟩ := statement_of_run (congrArg Prod.fst second)
      exact ⟨b, b', arguments, rows, given, selected, rfl⟩

/-- A list of services that is loaded says what the datastore knows. -/
theorem backs_of_load (regular : db.Regular) (loaded : (g.load full l db).1 = .ok services) :
    ∀ s ∈ services, db.Backs full s := by
  obtain ⟨-, b, arguments, rows, -, selected, rfl⟩ := selected_of_load loaded
  exact regular.backs_of_selected selected full arguments

end Gateway

end Vigil.Store
