import Vigil.Proofs.Writer.Delivery

/-!
What a commit makes of the datastore, row by row.

Main definition: `Event.Recorded`, the rows that an event adds and changes. Main statement:
`Store.Gateway.commit_all_or_nothing`, whatever breaks in its two attempts, a commit does that
exactly once if it succeeds, and nothing if it fails.
-/

namespace Vigil

open Store

namespace Store

/-! ### New rows -/

/-- What is given for a new row, column by column. -/
def Layout.fill (l : Layout) (given : List (String × Cell)) : Row :=
  l.columns.map fun c => Cell.convert c.affinity ((given.lookup c.name).getD c.standard)

/-- A new row holds what is given for it; its number is made up if it is not given. -/
theorem Table.fill_of_newRow? {t : Table} {given : List (String × Cell)} {row : Row}
    (made : t.newRow? given = some row) :
    (∃ n rest, t.layout.fill given = .null :: rest ∧ row = .integer n :: rest) ∨
      row = t.layout.fill given ∧ (row.head? = some .null → t.layout.isNumbered = false) := by
  unfold newRow? at made
  split at made
  · cases made
  · simp only at made
    split at made
    · rename_i rest given
      split at made
      · obtain ⟨n, -, rfl⟩ := Option.map_eq_some_iff.mp made
        exact .inl ⟨n, rest, given, rfl⟩
      · rename_i plain
        cases made
        exact .inr ⟨rfl, fun _ => Bool.eq_false_iff.mpr plain⟩
    · rename_i given
      cases made
      refine .inr ⟨rfl, fun missing => ?_⟩
      obtain ⟨rest, first⟩ := List.head?_eq_some_iff.mp missing
      exact absurd first (given rest)

/-- A row of a service in which a value is set if it is the one of a number. -/
def revise (id : Int) (place : Nat) (value : String) (row : Row) : Row :=
  if row.head? = some (.integer id) then row.set place (.text value) else row

theorem setRow_service {t : Table} (layout : t.layout = serviceLayout) (id : Int) (place : Nat)
    (value : String) : t.setRow place (.text value) (.integer id) = revise id place value := by
  funext row
  unfold Table.setRow revise
  congr 1
  cases row with
  | nil => simp [Table.isAt, layout, serviceLayout]
  | cons v rest =>
      simp only [Table.isAt, layout, serviceLayout, numberColumn, List.head?_cons, Cell.convert,
        Bool.and_eq_true, beq_iff_eq, Option.some.injEq, eq_iff_iff]
      constructor
      · exact And.left
      · rintro rfl
        exact ⟨rfl, rfl⟩

namespace Database

/-! ### Rows of a database -/

/-- The rows of a table; none if there is no such table. -/
def rowsOf (db : Database) (name : String) : List Row := ((db.table? name).map (·.rows)).getD []

/-- Only rows of some tables differ. -/
structure SameBut (names : List String) (db db' : Database) : Prop where
  tables : ∀ name, name ∉ names → db'.table? name = db.table? name
  layouts : ∀ name, (db'.table? name).map (·.layout) = (db.table? name).map (·.layout)
  indexes : db'.indexes = db.indexes
  writable : db'.writable = db.writable

theorem SameBut.trans {names names' : List String} {db db' db'' : Database}
    (first : SameBut names db db') (second : SameBut names' db' db'') :
    SameBut (names ++ names') db db'' where
  tables name other := by
    rw [List.mem_append, not_or] at other
    exact (second.tables name other.2).trans (first.tables name other.1)
  layouts name := (second.layouts name).trans (first.layouts name)
  indexes := second.indexes.trans first.indexes
  writable := second.writable.trans first.writable

theorem SameBut.rowsOf {names : List String} {db db' : Database} (same : SameBut names db db')
    {name : String} (other : name ∉ names) : db'.rowsOf name = db.rowsOf name := by
  rw [Database.rowsOf, Database.rowsOf, same.tables name other]

/-- Putting a table in the place of one that is laid out alike changes nothing but its rows. -/
theorem Regular.sameBut_setTable {db : Database} (regular : db.Regular) {name : String}
    {t t' : Table} (found : db.table? name = some t) (layout : t'.layout = t.layout) :
    SameBut [name] db (db.setTable t') ∧ (db.setTable t').rowsOf name = t'.rows := by
  have here : t'.layout.name = name := by rw [layout, regular.named name t found]
  refine ⟨⟨fun other ne => ?_, fun other => ?_, rfl, rfl⟩, ?_⟩
  · have ne : name ≠ other := fun same => ne (same ▸ List.mem_singleton_self _)
    rw [table?_setTable, here, if_neg ne]
  · rw [table?_setTable, here]
    split
    · rename_i same
      rw [← same, found, Option.map_some, Option.map_some, layout]
    · rfl
  · rw [Database.rowsOf, table?_setTable, here, if_pos rfl]
    rfl

theorem rowsOf_of_table? {db : Database} {name : String} {t : Table}
    (found : db.table? name = some t) :
    db.rowsOf name = t.rows := by
  rw [rowsOf, found]
  rfl

/-- An insertion tells the key of the row that it adds. -/
theorem key_of_insert? {db db' : Database} {name : String} {given : List (String × Cell)}
    {key : Cell}
    (done : db.insert? name given = some (db', key)) {t : Table} (found : db.table? name = some t)
    {row : Row} (made : t.newRow? given = some row) : key = row.headD .null := by
  simp only [insert?, found, made, Option.bind_eq_bind, Option.bind_some, Option.bind_eq_some_iff]
    at done
  obtain ⟨t', -, done⟩ := done
  split at done
  · cases done
    rfl
  · cases done

/-- An insertion adds a row, whose key is new, and that is all. -/
theorem Regular.rowsOf_insert? {db db' : Database} (regular : db.Regular) {l : Layout}
    (planned : l ∈ plan)
    {given : List (String × Cell)} {key : Cell} (done : db.insert? l.name given = some (db', key)) :
    ∃ (t : Table) (row : Row), t.layout = l ∧ t.newRow? given = some row ∧ key = row.headD .null ∧
      SameBut [l.name] db db' ∧ (db'.rowsOf l.name).Perm (row :: db.rowsOf l.name) ∧
      ∀ other ∈ db.rowsOf l.name, l.keyOf other ≠ l.keyOf row := by
  obtain ⟨t, row, t', found, made, taken, rfl⟩ := insert?_eq_some done
  obtain ⟨layout, rows, free⟩ := Table.insertRow?_eq_some taken
  obtain ⟨same, rows'⟩ := regular.sameBut_setTable found layout
  have plain : t.layout = l := regular.planned l planned t found
  refine ⟨t, row, plain, made, key_of_insert? done found made, same, ?_, ?_⟩
  · rw [rows', rowsOf_of_table? found]
    exact rows
  · rw [rowsOf_of_table? found, ← plain]
    exact free

/-- An update of a service sets a value in its row, and that is all. -/
theorem Regular.rowsOf_update? {db db' : Database} (regular : db.Regular) {column value : String}
    {id : Int} {n place : Nat} {required : Bool} {standard : Cell}
    (position : serviceLayout.position? column = some place)
    (kind : serviceLayout.columns[place]? = some (textColumn column required standard))
    (done : db.update? serviceLayout.name column (.text value) (.integer id) = some (db', n)) :
    SameBut [serviceLayout.name] db db' ∧
      (db'.rowsOf serviceLayout.name).Perm
        ((db.rowsOf serviceLayout.name).map (revise id place value)) := by
  obtain ⟨t, t', found, set, rfl⟩ := update?_eq_some done
  have plain : t.layout = serviceLayout := regular.planned serviceLayout (by simp [plan]) t found
  rw [← plain] at position kind
  obtain ⟨layout, -, rows⟩ := (regular.regular _ t found).setAt? set position kind
  obtain ⟨same, rows'⟩ := regular.sameBut_setTable found layout
  refine ⟨same, ?_⟩
  rw [rows', rowsOf_of_table? found, ← setRow_service plain]
  exact rows

end Database

end Store

/-! ### What an event writes -/

namespace Event

def row (e : Event) (number : Int) : Row :=
  [.integer number, .text e.source, .text e.target, optionalNumber e.device, .integer e.netbox,
    .integer e.service, .text e.time.columnText, .text e.typeName, .text e.code, .integer e.value,
    .integer 50]

def detailRow (e : Event) (number : Int) : Row := [.integer number, .text "descr", .text e.info]

/-- An event has been written down once, and nothing else has happened. A change of state adds a row
and its detail, both under a new number, and sets the status of the service; a change of version
sets the version of the service. -/
def Recorded (e : Event) (db db' : Database) : Prop :=
  match e.change with
  | .version v =>
    db.SameBut [serviceLayout.name] db' ∧
      (db'.rowsOf serviceLayout.name).Perm
        ((db.rowsOf serviceLayout.name).map (revise e.service 4 v))
  | .state s =>
    db.SameBut [eventLayout.name, eventDetailLayout.name, serviceLayout.name] db' ∧
      (∃ number, (∀ row ∈ db.rowsOf eventLayout.name, row.head? ≠ some (.integer number)) ∧
        (db'.rowsOf eventLayout.name).Perm (e.row number :: db.rowsOf eventLayout.name) ∧
        (db'.rowsOf eventDetailLayout.name).Perm
          (e.detailRow number :: db.rowsOf eventDetailLayout.name)) ∧
      (db'.rowsOf serviceLayout.name).Perm
        ((db.rowsOf serviceLayout.name).map (revise e.service 5 s.flag))

/-- One attempt to write an event down. -/
def store? (e : Event) (b : Breaks) (db : Database) : Option Database :=
  match e.change with
  | .version v => storeVersion e v b db
  | .state s => storeStatus e s b db

end Event

namespace Store

theorem fill_event (e : Event) : eventLayout.fill e.given = .null :: (e.row 0).tail := by
  have device : Cell.convert .integer (optionalNumber e.device) = optionalNumber e.device := by
    cases e.device <;> rfl
  change [_, _, _, Cell.convert .integer (optionalNumber e.device), _, _, _, _, _, _, _] = _
  rw [device]
  rfl

theorem fill_detail (e : Event) (number : Int) :
    eventDetailLayout.fill (e.detailGiven (.integer number)) = e.detailRow number := rfl

variable {e : Event} {b : Breaks} {db db' : Database}

theorem recorded_of_storeVersion {v : String} (regular : db.Regular)
    (change : e.change = .version v)
    (done : storeVersion e v b db = some db') : e.Recorded db db' := by
  obtain ⟨n, update⟩ := storeVersion_eq_some done
  rw [Event.Recorded, change]
  exact regular.rowsOf_update? (by decide) rfl update

/-- If the statement succeeds, all three of its parts have been done: the row of the event, its
detail, and the status. -/
theorem recorded_of_storeStatus {s : Status} (regular : db.Regular) (change : e.change = .state s)
    (done : storeStatus e s b db = some db') : e.Recorded db db' := by
  obtain ⟨db₁, key, db₂, key', n, event, detail, update⟩ := storeStatus_eq_some done
  have regular₁ := regular.insert? event
  have regular₂ := regular₁.insert? detail
  obtain ⟨t₁, row₁, layout₁, made₁, rfl, same₁, rows₁, free⟩ :=
    regular.rowsOf_insert? (by simp [Database.plan]) event
  -- the number of the event is made up
  obtain ⟨number, rfl⟩ : ∃ number, row₁ = e.row number := by
    rcases Table.fill_of_newRow? made₁ with ⟨number, rest, given, rfl⟩ | ⟨given, keyless⟩
    · rw [layout₁, fill_event] at given
      cases given
      exact ⟨number, rfl⟩
    · rw [layout₁, fill_event] at given
      have plain := keyless (by rw [given]; rfl)
      rw [layout₁] at plain
      cases plain
  obtain ⟨t₂, row₂, layout₂, made₂, -, same₂, rows₂, -⟩ :=
    regular₁.rowsOf_insert? (by simp [Database.plan]) detail
  obtain rfl : row₂ = e.detailRow number := by
    rcases Table.fill_of_newRow? made₂ with ⟨_, rest, given, -⟩ | ⟨given, -⟩
    · rw [layout₂] at given
      cases given
    · rw [layout₂] at given
      exact given.trans (fill_detail e number)
  obtain ⟨same₃, rows₃⟩ := regular₂.rowsOf_update? (show _ = some 5 by decide) rfl update
  rw [Event.Recorded, change]
  refine ⟨(same₁.trans same₂).trans same₃, ⟨number, ?_, ?_, ?_⟩, ?_⟩
  · intro row mem here
    refine free row mem ?_
    change row.take 1 = [.integer number]
    rw [List.take_one, here]
    rfl
  · rw [same₃.rowsOf (by decide), same₂.rowsOf (by decide)]
    exact rows₁
  · rw [same₃.rowsOf (by decide), ← same₁.rowsOf (by decide)]
    exact rows₂
  · rw [← same₁.rowsOf (by decide), ← same₂.rowsOf (by decide)]
    exact rows₃

/-- What has been stored in spite of a threat would have been stored without it. -/
theorem part_none {α : Type} {i : Nat} {x : Option α} {a : α} (held : b.part i x = some a) :
    Breaks.none.part i x = some a := Database.part_eq_some held

/-- What can be stored while something breaks can be stored on a connection that holds, with the
same result. -/
theorem store?_none (done : e.store? b db = some db') : e.store? .none db = some db' := by
  unfold Event.store? at done ⊢
  cases change : e.change with
  | version v =>
      rw [change] at done
      obtain ⟨r, held, rfl⟩ := Option.map_eq_some_iff.mp done
      exact Option.map_eq_some_iff.mpr ⟨r, part_none held, rfl⟩
  | state s =>
      rw [change] at done
      simp only [storeStatus, Option.bind_eq_bind, Option.bind_eq_some_iff] at done ⊢
      obtain ⟨_, begun, event, first, detail, second, update, third, last⟩ := done
      exact ⟨_, part_none begun, event, part_none first, detail, part_none second, update,
        part_none third, part_none last⟩

theorem recorded_of_store? (regular : db.Regular) (done : e.store? b db = some db') :
    e.Recorded db db' := by
  unfold Event.store? at done
  split at done
  · exact recorded_of_storeVersion regular ‹_› done
  · exact recorded_of_storeStatus regular ‹_› done

namespace Gateway

variable {g g' : Gateway} {first second : Attempt}

/-- A statement succeeds exactly if it leaves the datastore reachable. -/
theorem reachable_of_run {α : Type} (g : Gateway) (context : String)
    (statement : Breaks → Database → Option α) (first second : Attempt) (db : Database) :
    (g.run context statement first second db).2.reachable = true ↔
      ∃ x, (g.run context statement first second db).1 = .ok x := by
  unfold run
  split
  · simp
  · simp
  · dsimp only
    split
    · simp
    · simp
    · simp

theorem unreachable_of_run {α : Type} {context : String} {statement : Breaks → Database → Option α}
    {f : StoreFailure} (failed : g.run context statement first second db = (.error f, g')) :
    g'.reachable = false := by
  have reached := reachable_of_run g context statement first second db
  rw [failed] at reached
  refine Bool.eq_false_iff.mpr fun here => ?_
  obtain ⟨x, come⟩ := reached.mp here
  cases come

/-- The commit of an event that is not passed over is a statement that stores it. -/
theorem commit_own (own : e.source ∈ Event.acceptedSources) (g : Gateway) (first second : Attempt)
    (db : Database) :
    ∃ context, g.commit e first second db =
      match (g.run context e.store? first second db).1 with
      | .ok db' => (.ok (), (g.run context e.store? first second db).2, db')
      | .error f => (.error f, (g.run context e.store? first second db).2, db) := by
  have known : Event.acceptedSources.contains e.source = true := List.contains_iff_mem.mpr own
  unfold commit
  rw [known]
  cases change : e.change with
  | version v =>
      have same : e.store? = storeVersion e v := by
        funext b db
        rw [Event.store?, change]
      exact ⟨"update service version", same ▸ rfl⟩
  | state s =>
      have same : e.store? = storeStatus e s := by
        funext b db
        rw [Event.store?, change]
      exact ⟨"commit state event", same ▸ rfl⟩

theorem commit_foreign (foreign : e.source ∉ Event.acceptedSources) (g : Gateway)
    (first second : Attempt) (db : Database) : g.commit e first second db = (.ok (), g, db) := by
  have unknown : Event.acceptedSources.contains e.source = false := by simpa using foreign
  unfold commit
  rw [unknown]
  rfl

/-- Whatever breaks in the two attempts at a commit: an event from elsewhere is passed over. Else
the event has been written down by one attempt if the commit succeeds, nothing has changed if it
fails, and the datastore counts as reachable exactly if it succeeds. -/
theorem commit_all_or_nothing {answer : Except StoreFailure Unit}
    (done : g.commit e first second db = (answer, g', db')) :
    (e.source ∉ Event.acceptedSources → answer = .ok () ∧ g' = g ∧ db' = db) ∧
      (e.source ∈ Event.acceptedSources →
        (g'.reachable = true ↔ answer = .ok ()) ∧
        (answer = .ok () → e.store? .none db = some db' ∧ (db.Regular → e.Recorded db db')) ∧
        ∀ f, answer = .error f → db' = db) := by
  constructor
  · intro foreign
    rw [commit_foreign foreign] at done
    cases done
    exact ⟨rfl, rfl, rfl⟩
  · intro own
    obtain ⟨context, same⟩ := commit_own own g first second db
    rw [same] at done
    have reached := reachable_of_run g context e.store? first second db
    split at done
    · rename_i stored
      cases done
      refine ⟨?_, ?_, ?_⟩
      · rw [reached]
        exact ⟨fun _ => rfl, fun _ => ⟨_, stored⟩⟩
      · intro _
        obtain ⟨b, once⟩ := statement_of_run stored
        exact ⟨store?_none once, fun regular => recorded_of_store? regular once⟩
      · intro f failed
        cases failed
    · rename_i failed
      cases done
      refine ⟨?_, ?_, ?_⟩
      · rw [reached, failed]
        constructor
        · rintro ⟨x, stored⟩
          cases stored
        · intro stored
          cases stored
      · intro stored
        cases stored
      · intro f _
        rfl

/-! ### A commit that is mended -/

/-- The connection breaks as the status of the service is set, when the event and its detail are
already there. -/
def brokenLate : Attempt := ⟨true, (· == 3)⟩

theorem mended_commit_records :
    ∃ g' db',
      Writer.connected.commit (Writer.statusEvent .down) brokenLate .sound Writer.oneService =
        (.ok (), g', db') ∧
      storeStatus (Writer.statusEvent .down) .down brokenLate.breaks Writer.oneService = none ∧
      g'.reachable = true ∧ (Writer.statusEvent .down).Recorded Writer.oneService db' ∧
      (db'.rowsOf eventLayout.name).length = 1 := by
  have own : (Writer.statusEvent .down).source ∈ Event.acceptedSources := by decide
  have succeeds : (Writer.connected.commit (Writer.statusEvent .down) brokenLate .sound
      Writer.oneService).1.toOption = some () := by decide +kernel
  rcases done : Writer.connected.commit (Writer.statusEvent .down) brokenLate .sound
      Writer.oneService with ⟨answer, g', db'⟩
  rw [done] at succeeds
  obtain rfl : answer = .ok () := by
    cases answer with
    | ok => rfl
    | error f => cases succeeds
  obtain ⟨-, accepted⟩ := commit_all_or_nothing done
  obtain ⟨reached, stored, -⟩ := accepted own
  obtain ⟨-, recorded⟩ := stored rfl
  obtain ⟨-, ⟨_, -, rows, -⟩, -⟩ := recorded Writer.oneService_regular
  refine ⟨g', db', rfl, by decide +kernel, reached.mpr rfl, recorded Writer.oneService_regular, ?_⟩
  have before : (Writer.oneService.rowsOf eventLayout.name).length = 0 := by decide +kernel
  rw [rows.length_eq, List.length_cons, before]

end Gateway

end Store

end Vigil
