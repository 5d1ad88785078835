import Mathlib.Data.List.Forall2
import Vigil.Proofs.Store.Commit
import Vigil.Proofs.Store.Loaded
import Vigil.Proofs.Store.Ordered

/-!
Which services a list that is fetched has, by the rows of the datastore.

Main definitions: `Store.Database.Tells`, the datastore has the rows that a service stands for;
`Store.Database.Serves`, there is a service of a number that can be reached. Main statement:
`Store.Gateway.fetch_joins`.
-/

namespace Vigil.Store

/-! ### Kinds of values -/

/-- Whether a value is of the kind that a column is for. -/
def Column.holds (c : Column) : Cell → Bool
  | .null => !c.required
  | .integer _ => c.affinity = .integer
  | .text _ => c.affinity = .text
  | .real _ | .blob _ => false

section Columns

variable {name : String} {standard c : Cell}

theorem holds_number : (numberColumn name true standard).holds c = true ↔ ∃ n, c = .integer n := by
  cases c <;> simp [Column.holds, numberColumn]

theorem holds_optionalNumber :
    (numberColumn name false standard).holds c = true ↔ ∃ n, c = optionalNumber n := by
  cases c <;> simp [Column.holds, numberColumn, Option.exists, optionalNumber]

theorem holds_text : (textColumn name true standard).holds c = true ↔ ∃ s, c = .text s := by
  cases c <;> simp [Column.holds, textColumn]

theorem holds_optionalText :
    (textColumn name false standard).holds c = true ↔ ∃ s, c = Cell.optionalText s := by
  cases c <;> simp [Column.holds, textColumn, Option.exists, Cell.optionalText]

end Columns

namespace Database

/-! ### Rows in order -/

variable {db : Database}

section Rows

variable {l : Layout}

/-- The rows of a table that is planned are those of a table in good order, if it is there. -/
theorem Regular.rowsOf_cases (regular : db.Regular) (planned : l ∈ plan) :
    db.rowsOf l.name = [] ∨
      ∃ t, db.table? l.name = some t ∧ t.layout = l ∧ db.rowsOf l.name = t.rows := by
  cases found : db.table? l.name with
  | none => exact .inl (by rw [rowsOf, found]; rfl)
  | some t => exact .inr ⟨t, rfl, regular.planned l planned t found, rowsOf_of_table? found⟩

theorem Regular.apart_rowsOf (regular : db.Regular) (planned : l ∈ plan) :
    (db.rowsOf l.name).Pairwise fun a b => l.keyOf a ≠ l.keyOf b := by
  rcases regular.rowsOf_cases planned with none | ⟨t, found, rfl, rows⟩
  · rw [none]
    exact .nil
  · rw [rows]
    exact (regular.regular _ t found).apart

theorem Regular.wide_rowsOf (regular : db.Regular) (planned : l ∈ plan) {row : Row}
    (held : row ∈ db.rowsOf l.name) : row.length = l.columns.length := by
  rcases regular.rowsOf_cases planned with none | ⟨t, found, rfl, rows⟩
  · rw [none] at held
    cases held
  · rw [rows] at held
    exact (regular.regular _ t found).wide row held

theorem Ordered.sorted_rowsOf (ordered : db.Ordered) (planned : l ∈ plan)
    (numbered : l.isNumbered = true) :
    (db.rowsOf l.name).Pairwise Earlier := by
  rcases ordered.rowsOf_cases planned with none | ⟨t, found, rfl, rows⟩
  · rw [none]
    exact .nil
  · rw [rows]
    exact (ordered.ordered _ t found).sorted numbered

theorem Ordered.number_of_mem (ordered : db.Ordered) (planned : l ∈ plan)
    (numbered : l.isNumbered = true)
    {row : Row} (held : row ∈ db.rowsOf l.name) : ∃ n, row.head? = some (.integer n) := by
  rcases ordered.rowsOf_cases planned with none | ⟨t, found, rfl, rows⟩
  · rw [none] at held
    cases held
  · rw [rows] at held
    exact (ordered.ordered _ t found).numbers numbered row held

end Rows

/-! ### The join, row by row -/

def arguments (db : Database) : List (Int × String × Option String) :=
  (db.rowsOf propertyLayout.name).filterMap argumentOfRow?

def node? (db : Database) (row : Row) : Option Row :=
  (db.rowsOf netboxLayout.name).find? fun node => node.head? = some (row.getD 1 .null)

/-- The service that a row tells together with the row of its node. -/
def service? (db : Database) (full : Bool) (row : Row) : Option Service :=
  (db.node? row).bind fun node => (ServiceRow.ofRows? row node).bind (·.service? full db.arguments)

/-- If at most one value is found, the first is all that is found. -/
theorem filter_eq_toList_find? {α : Type} {p : α → Bool} {l : List α}
    (apart : l.Pairwise fun a b => p a = true → p b = false) : l.filter p = (l.find? p).toList := by
  induction l with
  | nil => rfl
  | cons a rest ih =>
      obtain ⟨first, more⟩ := List.pairwise_cons.mp apart
      cases here : p a with
      | false => rw [List.filter_cons_of_neg (by simp [here]), List.find?_cons, here, ih more]
      | true =>
          have none : rest.filter p = [] :=
            List.filter_eq_nil_iff.mpr fun b mem => by simp [first b mem here]
          rw [List.filter_cons_of_pos here, none, List.find?_cons, here]
          rfl

theorem Ordered.rowsOf_node (ordered : db.Ordered) {nodes : Table}
    (found : db.table? netboxLayout.name = some nodes) (row : Row) :
    Store.rowsOf nodes (row.getD 1 .null) = (db.node? row).toList := by
  have sorted := ordered.sorted_rowsOf (l := netboxLayout) (by simp [plan]) rfl
  rw [rowsOf_of_table? found] at sorted
  rw [node?, rowsOf_of_table? found, Store.rowsOf]
  refine filter_eq_toList_find? (sorted.imp fun earlier here => ?_)
  have here := of_decide_eq_true here
  exact decide_eq_false fun there => earlier.head?_ne (here.trans there.symm)

/-- The services that are read are those that the rows tell, in the order of the rows. -/
theorem Ordered.services_of_selected (ordered : db.Ordered) {b b' : Breaks}
    {all : List (Int × String × Option String)} {rows : List ServiceRow}
    (arguments : selectArguments b db = some all) (selected : selectServices b' db = some rows)
    (full : Bool) :
    rows.filterMap (·.service? full all) =
    (db.rowsOf serviceLayout.name).filterMap (db.service? full) ∧
      ∀ row ∈ db.rowsOf serviceLayout.name, ∀ node ∈ db.rowsOf netboxLayout.name,
        node.head? = some (row.getD 1 .null) → ∃ r, ServiceRow.ofRows? row node = some r := by
  simp only [selectArguments, Option.bind_eq_bind, Option.bind_eq_some_iff] at arguments
  obtain ⟨properties, hproperties, read⟩ := arguments
  have same : all = db.arguments := by
    rw [(filterMap_of_mapM read).1, Database.arguments, rowsOf_of_table? (part_eq_some hproperties)]
  simp only [selectServices, Option.bind_eq_bind, Option.bind_eq_some_iff] at selected
  obtain ⟨services, hservices, nodes, hnodes, joined⟩ := selected
  have hservices := part_eq_some hservices
  obtain ⟨rfl, typed⟩ := filterMap_of_mapM joined
  refine ⟨?_, fun row held node there same => ?_⟩
  · rw [rowsOf_of_table? hservices, List.filterMap_filterMap, List.filterMap_flatMap,
      List.filterMap_eq_flatMap_toList]
    refine congrArg (List.flatMap · _) (funext fun row => ?_)
    rw [List.filterMap_map, ordered.rowsOf_node hnodes, service?, same]
    cases db.node? row with
    | none => rfl
    | some node => exact (List.filterMap_eq_flatMap_toList _ _).trans (List.append_nil _)
  · refine typed (row, node) (List.mem_flatMap.mpr ⟨row, rowsOf_of_table? hservices ▸ held, ?_⟩)
    refine List.mem_map_of_mem (List.mem_filter.mpr ⟨rowsOf_of_table? hnodes ▸ there, ?_⟩)
    exact decide_eq_true same

/-! ### What a service stands for -/

/-- The rows of the datastore tell a service: there is its own row, the row of its node with an
address in it, and a row for each of its arguments. -/
inductive Tells (db : Database) (full : Bool) (s : Service) : Prop where
  | intro {active : Int} {version : Option String} {flag address : String} {nodeFlag : Cell}
      (service : [.integer s.id, .integer s.netbox, .integer active, .text s.kind,
        Cell.optionalText version, .text flag] ∈ db.rowsOf serviceLayout.name)
      (node : [.integer s.netbox, optionalNumber s.device, .text address, .text s.host, nodeFlag] ∈
        db.rowsOf netboxLayout.name)
      (place : Net.Address.read? (Text.trimmed address).toList = some s.address)
      (arguments : ∀ name value, s.arguments.get? name = some value ↔
        value ≠ "" ∧ [.integer s.id, .text name, .text value] ∈ db.rowsOf propertyLayout.name)
      (versions : s.version = version.filter (· != ""))
      (status : s.status = if full then .ofFlag flag else .unknown)
      (activity : s.active = (active != 0))

theorem mem_arguments {id : Int} {name : String} {value : Option String} :
    (id, name, value) ∈ db.arguments ↔
      [.integer id, .text name, Cell.optionalText value] ∈ db.rowsOf propertyLayout.name := by
  simp [arguments, argumentOfRow?_eq_some]

/-- An argument of a service is a row of it with a value that is not empty. -/
theorem kept_eq_some {id : Int} {x : Int × String × Option String} {name value : String} :
    (if x.1 = id then (x.2.2.filter (· != "")).map fun v => (x.2.1, v) else none) =
    some (name, value) ↔
      value ≠ "" ∧ x = (id, name, some value) := by
  obtain ⟨service, name', value'⟩ := x
  by_cases here : service = id
  · cases value' with
    | none => simp [here]
    | some v =>
        rw [if_pos here, Option.map_eq_some_iff]
        constructor
        · rintro ⟨v', kept, same⟩
          cases same
          obtain ⟨rfl, ne⟩ : v = value ∧ value ≠ "" := by
            simpa [Option.filter_eq_some_iff] using kept
          exact ⟨ne, by rw [here]⟩
        · rintro ⟨ne, same⟩
          cases same
          exact ⟨value, by simp [ne], rfl⟩
  · simp [here]

/-- The arguments of a service are the rows of it with values that are not empty. -/
theorem Regular.get?_argumentsOf (regular : db.Regular) {id : Int} {name value : String} :
    (argumentsOf db.arguments id).get? name = some value ↔
      value ≠ "" ∧ [.integer id, .text name, .text value] ∈ db.rowsOf propertyLayout.name := by
  have apart := regular.apart_rowsOf (l := propertyLayout) (by simp [plan])
  rw [argumentsOf, Keyed.get?_ofList, List.mem_filterMap]
  · constructor
    · rintro ⟨x, held, kept⟩
      obtain ⟨ne, rfl⟩ := kept_eq_some.mp kept
      exact ⟨ne, mem_arguments.mp held⟩
    · rintro ⟨ne, held⟩
      exact ⟨(id, name, some value), mem_arguments.mpr held, kept_eq_some.mpr ⟨ne, rfl⟩⟩
  · -- two rows of the service have different names
    refine List.pairwise_filterMap.mpr (List.pairwise_filterMap.mpr (apart.imp ?_))
    rintro a b ne x hx y hy ⟨name, value⟩ hp ⟨name', value'⟩ hq rfl
    obtain ⟨-, rfl⟩ := kept_eq_some.mp hp
    obtain ⟨-, rfl⟩ := kept_eq_some.mp hq
    rw [argumentOfRow?_eq_some.mp hx, argumentOfRow?_eq_some.mp hy] at ne
    exact ne rfl

/-- Numbers of nodes are all different, so that the first row of a number is the only one. -/
theorem Ordered.node?_eq_some (ordered : db.Ordered) {row node : Row} :
    db.node? row = some node ↔
      node ∈ db.rowsOf netboxLayout.name ∧ node.head? = some (row.getD 1 .null) := by
  have sorted := ordered.sorted_rowsOf (l := netboxLayout) (by simp [plan]) rfl
  have sound {other : Row} (found : db.node? row = some other) :
      other ∈ db.rowsOf netboxLayout.name ∧ other.head? = some (row.getD 1 .null) :=
    ⟨List.mem_of_find?_eq_some found, by simpa using List.find?_some found⟩
  refine ⟨sound, ?_⟩
  rintro ⟨there, same⟩
  cases found : db.node? row with
  | none => exact absurd (decide_eq_true same) (List.find?_eq_none.mp found node there)
  | some other =>
      obtain ⟨there', same'⟩ := sound found
      rw [eq_of_head? sorted there' there (same'.trans same.symm)]

/-- A row tells the service whose number it has. -/
theorem Ordered.tells_of_service? (ordered : db.Ordered) {full : Bool} {row : Row} {s : Service}
    (held : row ∈ db.rowsOf serviceLayout.name) (told : db.service? full row = some s) :
    row.head? = some (.integer s.id) ∧ db.Tells full s := by
  obtain ⟨node, found, told⟩ := Option.bind_eq_some_iff.mp told
  obtain ⟨r, read, told⟩ := Option.bind_eq_some_iff.mp told
  obtain ⟨address, place, rfl⟩ := Option.map_eq_some_iff.mp told
  obtain ⟨rfl, key, flag, rfl⟩ := ServiceRow.ofRows?_eq_some.mp read
  obtain ⟨there, same⟩ := ordered.node?_eq_some.mp found
  cases same
  exact ⟨rfl, held, there, place, fun _ _ => ordered.get?_argumentsOf, rfl, rfl, rfl⟩

/-- What is told of a service is told by a row. -/
theorem Ordered.service?_of_tells (ordered : db.Ordered) {full : Bool} {s : Service}
    (tells : db.Tells full s) : ∃ row ∈ db.rowsOf serviceLayout.name,
    db.service? full row = some s := by
  obtain @⟨active, version, flag, address, nodeFlag, service, node, place, arguments,
    versions, status,
    activity⟩ := tells
  refine ⟨_, service, ?_⟩
  have found : db.node? [.integer s.id, .integer s.netbox, .integer active, .text s.kind,
      Cell.optionalText version, .text flag] = some _ := ordered.node?_eq_some.mpr ⟨node, rfl⟩
  have read := (ServiceRow.ofRows?_eq_some
    (r := ⟨s.id, s.netbox, s.device, active, s.kind, version, address, s.host, flag⟩)).mpr
    ⟨rfl, .integer s.netbox, nodeFlag, rfl⟩
  have same : argumentsOf db.arguments s.id = s.arguments :=
    Keyed.ext_get? fun name => Option.ext fun value =>
      ordered.get?_argumentsOf.trans (arguments name value).symm
  rw [service?, found, Option.bind_some, read, Option.bind_some, ServiceRow.service?, place,
    Option.map_some, same, ← versions, ← status, ← activity]

/-- There is a service of a number, its node is there, and the address of the node is one. -/
def Serves (db : Database) (id : Int) : Prop :=
  ∃ row ∈ db.rowsOf serviceLayout.name, ∃ node ∈ db.rowsOf netboxLayout.name, ∃ address,
    row.head? = some (.integer id) ∧ node.head? = row[1]? ∧ node[2]? = some (.text address) ∧
    (Net.Address.read? (Text.trimmed address).toList).isSome = true

/-- Two databases have the same rows that concern the service of a number: its own, those of its
arguments, and that of the node it is on. -/
structure AgreesOn (id : Int) (db db' : Database) : Prop where
  service : ∀ row, row.head? = some (.integer id) →
    (row ∈ db.rowsOf serviceLayout.name ↔ row ∈ db'.rowsOf serviceLayout.name)
  arguments : ∀ row, row.head? = some (.integer id) →
    (row ∈ db.rowsOf propertyLayout.name ↔ row ∈ db'.rowsOf propertyLayout.name)
  node : ∀ row ∈ db.rowsOf serviceLayout.name, row.head? = some (.integer id) →
    ∀ node, node.head? = row[1]? →
      (node ∈ db.rowsOf netboxLayout.name ↔ node ∈ db'.rowsOf netboxLayout.name)

theorem AgreesOn.symm {db' : Database} {id : Int} (agrees : AgreesOn id db db') :
    AgreesOn id db' db where
  service row here := (agrees.service row here).symm
  arguments row here := (agrees.arguments row here).symm
  node row held here node there :=
    (agrees.node row ((agrees.service row here).mpr held) here node there).symm

/-- What is told of a service are the rows that concern it. -/
theorem AgreesOn.tells {db' : Database} {s : Service} (agrees : AgreesOn s.id db db') {full : Bool}
    (tells : db.Tells full s) : db'.Tells full s := by
  obtain ⟨service, node, place, arguments, versions, status, activity⟩ := tells
  refine ⟨(agrees.service _ rfl).mp service, (agrees.node _ service rfl _ rfl).mp node, place,
    fun name value => (arguments name value).trans ?_, versions, status, activity⟩
  rw [agrees.arguments _ rfl]

/-! ### Values of the right kinds -/

/-- Every row of the datastore has values of the kinds that its columns are for. -/
def Typed (db : Database) : Prop :=
  ∀ l ∈ plan, ∀ row ∈ db.rowsOf l.name, ∀ p ∈ l.columns.zip row, p.1.holds p.2 = true

theorem Ordered.forall₂_holds (ordered : db.Ordered) (typed : db.Typed) {l : Layout}
    (planned : l ∈ plan) {row : Row} (held : row ∈ db.rowsOf l.name) :
    List.Forall₂ (fun column cell => column.holds cell = true) l.columns row :=
  List.forall₂_iff_zip.mpr ⟨(ordered.wide_rowsOf planned held).symm, typed l planned row held _⟩

/-- A row of the table of services, column by column. -/
theorem Ordered.shape_of_service (ordered : db.Ordered) (typed : db.Typed) {row : Row}
    (held : row ∈ db.rowsOf serviceLayout.name) :
    ∃ id netbox active kind version flag,
    row = [.integer id, .integer netbox, .integer active, .text kind,
      Cell.optionalText version, .text flag] := by
  have planned : serviceLayout ∈ plan := by simp [plan]
  obtain ⟨id, head⟩ := ordered.number_of_mem planned rfl held
  have cells := ordered.forall₂_holds typed planned held
  simp only [serviceLayout, List.forall₂_cons_left_iff, List.forall₂_nil_left_iff,
    holds_number, holds_text,
    holds_optionalText] at cells
  obtain ⟨_, _, -, ⟨_, _, ⟨netbox, rfl⟩,
    ⟨_, _, ⟨active, rfl⟩, ⟨_, _, ⟨kind, rfl⟩, ⟨_, _, ⟨version, rfl⟩,
    ⟨_, _, ⟨flag, rfl⟩, rfl, rfl⟩, rfl⟩, rfl⟩, rfl⟩, rfl⟩, rfl⟩ := cells
  cases head
  exact ⟨id, netbox, active, kind, version, flag, rfl⟩

/-- A row of the table of nodes, column by column. -/
theorem Ordered.shape_of_node (ordered : db.Ordered) (typed : db.Typed) {row : Row}
    (held : row ∈ db.rowsOf netboxLayout.name) :
    ∃ key device address host flag,
      row = [key, optionalNumber device, .text address, .text host, flag] := by
  have cells := ordered.forall₂_holds typed (by simp [plan]) held
  simp only [netboxLayout, List.forall₂_cons_left_iff, List.forall₂_nil_left_iff,
    holds_optionalNumber,
    holds_text] at cells
  obtain ⟨key, _, -, ⟨_, _, ⟨device, rfl⟩,
    ⟨_, _, ⟨address, rfl⟩, ⟨_, _, ⟨host, rfl⟩, ⟨flag, _, -, rfl, rfl⟩,
    rfl⟩, rfl⟩, rfl⟩, rfl⟩ := cells
  exact ⟨key, device, address, host, flag, rfl⟩

theorem Ordered.shape_of_argument (ordered : db.Ordered) (typed : db.Typed) {row : Row}
    (held : row ∈ db.rowsOf propertyLayout.name) :
    ∃ id name value, row = [.integer id, .text name, Cell.optionalText value] := by
  have cells := ordered.forall₂_holds typed (by simp [plan]) held
  simp only [propertyLayout, List.forall₂_cons_left_iff, List.forall₂_nil_left_iff,
    holds_number, holds_text,
    holds_optionalText] at cells
  obtain ⟨_, _, ⟨id, rfl⟩, ⟨_, _, ⟨name, rfl⟩, ⟨_, _, ⟨value, rfl⟩, rfl, rfl⟩, rfl⟩, rfl⟩ := cells
  exact ⟨id, name, value, rfl⟩

/-- The tables from which services are loaded are there. -/
def HasServices (db : Database) : Prop :=
  ∀ l ∈ [netboxLayout, serviceLayout, propertyLayout], (db.table? l.name).isSome = true

end Database

/-! ### Fetching -/

namespace Gateway

variable {g : Gateway} {db : Database} {full : Bool} {l : Loading} {services : List Service}

theorem exists_mapM {α β : Type} {f : α → Option β} {l : List α}
    (all : ∀ a ∈ l, ∃ b, f a = some b) :
    ∃ l', l.mapM f = some l' := by
  induction l with
  | nil => exact ⟨[], rfl⟩
  | cons a rest ih =>
      obtain ⟨⟨b, here⟩, more⟩ := List.forall_mem_cons.mp all
      obtain ⟨l', tail⟩ := ih more
      exact ⟨b :: l', by simp [List.mapM_cons, here, tail]⟩

/-- A statement that can be made is made if nothing befalls its first attempt. -/
theorem run_of_sound {α : Type} {context : String} {statement : Breaks → Database → Option α}
    {second : Attempt} {x : α} (made : statement .none db = some x) :
    g.run context statement .sound second db =
    (.ok x, { g with connected := true, reachable := true }) := by
  simp [run, attempt, Attempt.sound, made]

/-- Services whose values are of the right kinds are loaded if nothing befalls that. -/
theorem exists_load (ordered : db.Ordered) (typed : db.Typed) (there : db.HasServices)
    (first : l.1.1 = .sound) (second : l.2.1 = .sound) :
    ∃ services, (g.load full l db).1 = .ok services := by
  obtain ⟨nodes, hnodes⟩ := Option.isSome_iff_exists.mp (there netboxLayout (by simp))
  obtain ⟨rows, hrows⟩ := Option.isSome_iff_exists.mp (there serviceLayout (by simp))
  obtain ⟨properties, hproperties⟩ := Option.isSome_iff_exists.mp (there propertyLayout (by simp))
  obtain ⟨all, arguments⟩ : ∃ all, selectArguments .none db = some all := by
    obtain ⟨all, read⟩ :=
      exists_mapM (f := argumentOfRow?) (l := properties.rows) fun row held => by
      rw [← Database.rowsOf_of_table? hproperties] at held
      obtain ⟨id, name, value, rfl⟩ := ordered.shape_of_argument typed held
      exact ⟨_, argumentOfRow?_eq_some.mpr rfl⟩
    exact ⟨all, by simp [selectArguments, Breaks.part, Breaks.none, hproperties, read]⟩
  obtain ⟨found, selected⟩ : ∃ found, selectServices .none db = some found := by
    obtain ⟨found, read⟩ := exists_mapM (f := fun p : Row × Row => ServiceRow.ofRows? p.1 p.2)
      (l := rows.rows.flatMap fun row => (rowsOf nodes (row.getD 1 .null)).map fun node =>
          (row, node))
      fun p mem => by
        obtain ⟨row, held, pair⟩ := List.mem_flatMap.mp mem
        obtain ⟨node, joined, rfl⟩ := List.mem_map.mp pair
        have inside : node ∈ nodes.rows := (List.mem_filter.mp joined).1
        rw [← Database.rowsOf_of_table? hrows] at held
        rw [← Database.rowsOf_of_table? hnodes] at inside
        obtain ⟨id, netbox, active, kind, version, up, rfl⟩ := ordered.shape_of_service typed held
        obtain ⟨key, device, address, host, flag, rfl⟩ := ordered.shape_of_node typed inside
        exact ⟨⟨id, netbox, device, active, kind, version, address, host, up⟩,
          ServiceRow.ofRows?_eq_some.mpr ⟨rfl, key, flag, rfl⟩⟩
    exact ⟨found, by simpa [selectServices, Breaks.part, Breaks.none, hrows, hnodes] using read⟩
  refine ⟨found.filterMap (·.service? full all), ?_⟩
  unfold load
  rw [first, run_of_sound arguments]
  simp only
  rw [second, run_of_sound selected]

/-- The services that are loaded are those that the rows tell, in the order of the rows. -/
theorem services_of_load (ordered : db.Ordered) (loaded : (g.load full l db).1 = .ok services) :
    services = (db.rowsOf serviceLayout.name).filterMap (db.service? full) ∧
      ∀ row ∈ db.rowsOf serviceLayout.name, ∀ node ∈ db.rowsOf netboxLayout.name,
        node.head? = some (row.getD 1 .null) → ∃ r, ServiceRow.ofRows? row node = some r := by
  obtain ⟨b, b', arguments, rows, first, second, rfl⟩ := selected_of_load loaded
  exact ordered.services_of_selected first second full

/-- Services that are loaded stand in the order of their numbers. -/
theorem sorted_of_load (ordered : db.Ordered) (loaded : (g.load full l db).1 = .ok services) :
    services.Pairwise fun s t => s.id < t.id := by
  obtain ⟨rfl, -⟩ := services_of_load ordered loaded
  have sorted := ordered.sorted_rowsOf (l := serviceLayout) (by simp [Database.plan]) rfl
  refine List.pairwise_filterMap.mpr (sorted.imp_of_mem ?_)
  intro a b ha hb earlier s hs t ht
  exact earlier.lt (ordered.tells_of_service? ha hs).1 (ordered.tells_of_service? hb ht).1

/-- The services that are loaded are those that the rows tell. -/
theorem mem_of_load (ordered : db.Ordered) (loaded : (g.load full l db).1 = .ok services)
    (s : Service) :
    s ∈ services ↔ db.Tells full s := by
  obtain ⟨rfl, -⟩ := services_of_load ordered loaded
  rw [List.mem_filterMap]
  constructor
  · rintro ⟨row, held, told⟩
    exact (ordered.tells_of_service? held told).2
  · exact ordered.service?_of_tells

/-- If services are loaded, none is missing that can be reached. -/
theorem serves_iff_of_load (ordered : db.Ordered) (loaded : (g.load full l db).1 = .ok services)
    (id : Int) : (∃ s ∈ services, s.id = id) ↔ db.Serves id := by
  constructor
  · rintro ⟨s, mem, rfl⟩
    obtain ⟨service, node, place, -, -, -, -⟩ := (mem_of_load ordered loaded s).mp mem
    exact ⟨_, service, _, node, _, rfl, rfl, rfl, by rw [place]; rfl⟩
  · rintro ⟨row, held, node, there, address, head, same, text, place⟩
    obtain ⟨rfl, typed⟩ := services_of_load ordered loaded
    obtain ⟨key, number⟩ :=
      ordered.number_of_mem (l := netboxLayout) (by simp [Database.plan]) rfl there
    have joined : node.head? = some (row.getD 1 .null) := by
      rw [List.getD_eq_getElem?_getD, ← same, number]
      rfl
    obtain ⟨r, read⟩ := typed row held node there joined
    obtain ⟨address', place⟩ := Option.isSome_iff_exists.mp place
    have place : Net.Address.read? (Text.trimmed r.address).toList = some address' := by
      obtain ⟨-, _, _, rfl⟩ := ServiceRow.ofRows?_eq_some.mp read
      cases text
      exact place
    obtain ⟨s, told⟩ : ∃ s, db.service? full row = some s := by
      rw [Database.service?, ordered.node?_eq_some.mpr ⟨there, joined⟩, Option.bind_some, read,
        Option.bind_some, ServiceRow.service?, place]
      exact ⟨_, rfl⟩
    refine ⟨s, List.mem_filterMap.mpr ⟨row, held, told⟩, ?_⟩
    have mine := (ordered.tells_of_service? held told).1
    rw [head] at mine
    cases mine
    rfl

/-- What a fetch returns if services can be loaded, for any rows of the datastore whose keys are in
order. They can be loaded if the values are of the right kinds and nothing befalls the statements.
There is one service for each number under which there is a row of a service, the row of its node,
and an address in it, and they stand in the order of these numbers. Each is what the rows that
concern it tell - its own, that of its node, and those of its arguments -, so that it is the same in
any datastore that has the same rows of these, whatever else there is. -/
theorem fetch_joins (ordered : db.Ordered) :
    (db.Typed → db.HasServices → l.1.1 = .sound → l.2.1 = .sound →
      ∃ services, (g.load full l db).1 = .ok services) ∧
    ∀ services, (g.load full l db).1 = .ok services →
      (g.fetch full l db).1 = services ∧ services.Pairwise (fun s t => s.id < t.id) ∧
      (∀ id, (∃ s ∈ services, s.id = id) ↔ db.Serves id) ∧
      (∀ s, s ∈ services ↔ db.Tells full s) ∧
      ∀ g' l' db' services' id, db'.Ordered → Database.AgreesOn id db db' →
        (load g' full l' db').1 = .ok services' → ∀ s, s.id = id →
        (s ∈ services ↔ s ∈ services') := by
  refine ⟨exists_load ordered, fun services loaded => ⟨?_, sorted_of_load ordered loaded,
    serves_iff_of_load ordered loaded, mem_of_load ordered loaded, ?_⟩⟩
  · unfold fetch
    split
    · rename_i come
      rw [come] at loaded
      cases loaded
      rfl
    · rename_i come
      rw [come] at loaded
      cases loaded
  · rintro g' l' db' services' _ ordered' agrees loaded' s rfl
    rw [mem_of_load ordered loaded, mem_of_load ordered' loaded']
    exact ⟨agrees.tells, agrees.symm.tells⟩

/-! ### Three services -/

def filled? (rows : List (String × List (String × Cell))) : Option Database :=
  rows.foldlM (fun db row => (db.insert? row.1 row.2).map (·.1))
    (Database.empty.migrate (fun _ => .none) 0 migrations).1

/-- A filled datastore has been made by statements. -/
theorem made_of_filled? {rows : List (String × List (String × Cell))}
    (filled : filled? rows = some db) :
    db.Made := by
  unfold filled? at filled
  have start := Database.Made.keptBySteps.migrate .empty (fun _ => .none) 0
  revert filled start
  generalize (Database.empty.migrate (fun _ => .none) 0 migrations).1 = db₀
  intro filled start
  induction rows generalizing db₀ with
  | nil =>
      cases filled
      exact start
  | cons row rest ih =>
      rw [List.foldlM_cons] at filled
      obtain ⟨next, first, more⟩ := Option.bind_eq_some_iff.mp filled
      obtain ⟨⟨_, key⟩, inserted, rfl⟩ := Option.map_eq_some_iff.mp first
      exact ih _ more (start.insert inserted)

/-- The second of two nodes has no address. Of three services, which have not been added in their
order, one is on it. -/
def threeServices : List (String × List (String × Cell)) := [
  ("netbox", [("netboxid", .integer 1), ("ip", .text " 192.0.2.1 "), ("sysname", .text "node")]),
  ("netbox", [("netboxid", .integer 2), ("ip", .text "nowhere"), ("sysname", .text "other")]),
  ("service", [("serviceid", .integer 3), ("netboxid", .integer 1), ("handler", .text "http")]),
  ("service", [("serviceid", .integer 2), ("netboxid", .integer 2), ("handler", .text "ssh")]),
  ("service", [("serviceid", .integer 1), ("netboxid", .integer 1), ("handler", .text "ssh")]),
  ("serviceproperty", [("serviceid", .integer 3), ("property", .text "port"),
    ("value", .text "80")]),
  ("serviceproperty", [("serviceid", .integer 3), ("property", .text "url"), ("value", .text "")])]

theorem threeServices_joins :
    ∃ db services s, filled? threeServices = some db ∧
      (fetch Writer.connected false ((.sound, .sound), (.sound, .sound)) db).1 = services ∧
      services.map (·.id) = [1, 3] ∧ ¬ db.Serves 2 ∧ s ∈ services ∧ s.id = 3 ∧ db.Tells false s ∧
      s.arguments = .ofList [("port", "80")] := by
  have happens : (filled? threeServices).any (fun db =>
      (load Writer.connected false ((.sound, .sound), (.sound, .sound)) db).1.toOption.any
        fun services =>
        services.map (·.id) = [1, 3] ∧
          services.any fun s => s.id = 3 ∧ s.arguments = .ofList [("port", "80")]) = true := by
    decide +kernel
  obtain ⟨db, filled, happens⟩ := (Option.any_eq_true _ _).mp happens
  obtain ⟨services, here, happens⟩ := (Option.any_eq_true _ _).mp happens
  obtain ⟨ids, happens⟩ := of_decide_eq_true happens
  obtain ⟨s, mem, happens⟩ := List.any_eq_true.mp happens
  obtain ⟨three, arguments⟩ := of_decide_eq_true happens
  have loaded : (load Writer.connected false ((.sound, .sound), (.sound, .sound)) db).1 =
    .ok services := by
    cases answer : (load Writer.connected false ((.sound, .sound), (.sound, .sound)) db).1 with
    | error => simp [answer, Except.toOption] at here
    | ok => simpa [answer, Except.toOption] using here
  obtain ⟨fetched, -, serves, tells, -⟩ :=
    (fetch_joins (made_of_filled? filled).ordered).2 services loaded
  refine ⟨db, services, s, filled, fetched, ids, fun served => ?_, mem, three,
    (tells s).mp mem, arguments⟩
  obtain ⟨other, held, two⟩ := (serves 2).mpr served
  have listed : other.id ∈ services.map (·.id) := List.mem_map_of_mem held
  rw [ids, two] at listed
  simp at listed

end Gateway

end Vigil.Store
