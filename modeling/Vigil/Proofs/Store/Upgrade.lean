import Mathlib.Data.List.Forall2
import Vigil.Proofs.Store.Ordered

/-!
Calls that bring a datastore up to date, and that may break off anywhere. The next call goes on
where the last one stopped, because the steps that are kept are those that have been made.

Main definitions: `Store.Progress`, a datastore between two transactions with the steps made on it
so far; `Store.Progress.history`, what some calls in turn pass; `Store.Database.Alike`, two
databases that differ at most in the times at which steps were kept. Main statement:
`Store.Database.upgrade_resumes`.
-/

namespace Vigil.Store

/-! ### Calls -/

/-- A call to bring a database up to date: which parts of its statements break, and its time. -/
structure Call where
  breaks : Int → Breaks
  now : Int

def Call.leaves (c : Call) (all : List Migration) (db : Database) : Database :=
  (db.migrate c.breaks c.now all).1

def Call.succeeds (c : Call) (all : List Migration) (db : Database) : Bool :=
  (db.migrate c.breaks c.now all).2

def Call.sound (now : Int) : Call := ⟨fun _ => .none, now⟩

/-- A database between two transactions, and the steps that have been made on it so far. -/
structure Progress where
  db : Database
  made : List Migration

namespace Progress

/-- What making some steps in turn passes, the start aside. -/
def through (c : Call) : List Migration → Progress → List Progress
  | [], _ => []
  | m :: rest, p =>
    match p.db.makeStep? (c.breaks m.version) c.now m with
    | some db => ⟨db, p.made ++ [m]⟩ :: through c rest ⟨db, p.made ++ [m]⟩
    | none => []

/-- What a call passes, the start aside: the table of the steps, and each step that it makes. -/
def passes (all : List Migration) (c : Call) (p : Progress) : List Progress :=
  match (c.breaks 0).part 0 (p.db.define? (.table migrationLayout)) with
  | none => []
  | some db =>
    ⟨db, p.made⟩ :: match (c.breaks 0).part 1 (some db.schemaVersion) with
      | none => []
      | some version => through c (all.filter fun m => version < m.version) ⟨db, p.made⟩

/-- What some calls in turn pass, the start first. -/
def history (all : List Migration) : List Call → Progress → List Progress
  | [], p => [p]
  | c :: rest, p => p :: (p.passes all c ++ history all rest ((p.passes all c).getLastD p))

/-- The last of the moments that a call passes is what it leaves. -/
theorem getLastD_through (c : Call) (steps : List Migration) (p : Progress) :
    ((p.through c steps).getLastD p).db = (p.db.applyAll c.breaks c.now steps).1 ∧
      ((p.db.applyAll c.breaks c.now steps).2 = true →
        ((p.through c steps).getLastD p).made = p.made ++ steps) := by
  induction steps generalizing p with
  | nil => exact ⟨rfl, fun _ => (List.append_nil _).symm⟩
  | cons m rest ih =>
      unfold through Database.applyAll
      cases p.db.makeStep? (c.breaks m.version) c.now m with
      | none => exact ⟨rfl, fun done => by cases done⟩
      | some db =>
          obtain ⟨left, all⟩ := ih ⟨db, p.made ++ [m]⟩
          dsimp only
          rw [List.getLastD_cons]
          exact ⟨left, fun done => (all done).trans (List.append_assoc ..)⟩

/-- What a call passes last is what it leaves. -/
theorem db_getLastD_passes (all : List Migration) (c : Call) (p : Progress) :
    ((p.passes all c).getLastD p).db = c.leaves all p.db := by
  unfold passes Call.leaves Database.migrate
  cases (c.breaks 0).part 0 (p.db.define? (.table migrationLayout)) with
  | none => rfl
  | some db =>
      dsimp only
      rw [List.getLastD_cons]
      cases (c.breaks 0).part 1 (some db.schemaVersion) with
      | none => rfl
      | some version => exact (getLastD_through c _ ⟨db, p.made⟩).1

end Progress

/-! ### The table of the steps -/

def Migration.row (m : Migration) (now : Int) : Row :=
  [.integer m.version, .integer now, .text m.description]

def Migration.record (m : Migration) : Cell × Cell := (.integer m.version, .text m.description)

namespace Table

/-- A row behind which no other has its place stands last. -/
theorem placeRow_eq_append {l : Layout} {row : Row} {rows : List Row}
    (behind : ∀ other ∈ rows, Cell.rowPrecedes (l.keyOf row) (l.keyOf other) = false) :
    placeRow l row rows = rows ++ [row] := by
  induction rows with
  | nil => rfl
  | cons other rest ih =>
      obtain ⟨first, more⟩ := List.forall_mem_cons.mp behind
      rw [placeRow, first, ih more]
      rfl

/-- The table of the steps, in which some steps are kept in turn. -/
structure Keeps (ms : List Migration) (t : Table) : Prop where
  layout : t.layout = migrationLayout
  rows : List.Forall₂ (fun m row => ∃ now, row = m.row now) ms t.rows

variable {ms : List Migration} {t : Table}

theorem Keeps.exists_of_mem (keeps : t.Keeps ms) {row : Row} (mem : row ∈ t.rows) :
    ∃ m ∈ ms, ∃ now, row = m.row now := by
  obtain ⟨i, inside, rfl⟩ := List.getElem_of_mem mem
  have inside' : i < ms.length := keeps.rows.length_eq ▸ inside
  exact ⟨ms[i], List.getElem_mem inside', keeps.rows.get inside' inside⟩

theorem Keeps.newRow? (keeps : t.Keeps ms) (m : Migration) (now : Int) :
    t.newRow? [("version", .integer m.version), ("applied_at", .integer now),
      ("description", .text m.description)] = some (m.row now) := by
  unfold Table.newRow?
  rw [keeps.layout]
  rfl

/-- A step with a later version than all that are kept is kept behind them. -/
theorem Keeps.insertRow? (keeps : t.Keeps ms) {m : Migration}
    (later : ∀ n ∈ ms, n.version < m.version)
    (now : Int) : ∃ t', t.insertRow? (m.row now) = some t' ∧ t'.Keeps (ms ++ [m]) := by
  have numbered : t.layout.isNumbered = true := by rw [keeps.layout]; rfl
  have free : t.hasKey (t.layout.keyOf (m.row now)) = false := by
    rw [hasKey, List.any_eq_false]
    intro row mem same
    obtain ⟨n, earlier, named, rfl⟩ := keeps.exists_of_mem mem
    rw [keyOf_numbered numbered, keyOf_numbered numbered] at same
    have same : n.version = m.version := by simpa [Migration.row] using same
    exact absurd (later n earlier) (by omega)
  refine ⟨_, if_pos ?_, keeps.layout, ?_⟩
  · rw [free, keeps.layout]
    rfl
  · dsimp only
    rw [placeRow_eq_append]
    · exact List.rel_append keeps.rows (.cons ⟨now, rfl⟩ .nil)
    · intro row mem
      obtain ⟨n, earlier, named, rfl⟩ := keeps.exists_of_mem mem
      rw [rowPrecedes_keyOf numbered rfl rfl]
      have := later n earlier
      exact decide_eq_false (by omega)

theorem Keeps.numbers (keeps : t.Keeps ms) : t.numbers = ms.map Migration.version := by
  obtain ⟨-, rows⟩ := keeps
  unfold Table.numbers Table.column
  generalize t.rows = rows' at rows
  induction rows with
  | nil => rfl
  | cons row _ ih =>
      obtain ⟨now, rfl⟩ := row
      simpa [Migration.row, Cell.integer?] using ih

theorem Keeps.records (keeps : t.Keeps ms) :
    (t.rows.map fun row => (row.getD 0 .null, row.getD 2 .null)) = ms.map Migration.record := by
  obtain ⟨-, rows⟩ := keeps
  generalize t.rows = rows' at rows
  induction rows with
  | nil => rfl
  | cons row _ ih =>
      obtain ⟨now, rfl⟩ := row
      exact congrArg _ ih

end Table

namespace Database

variable {ms : List Migration} {db db' a a' b : Database}

/-! ### What a step leaves alone -/

/-- A table that is there stays as it is when something is defined. -/
theorem table?_of_define? {d : Definition} (done : db.define? d = some db') {name : String}
    {t : Table} (found : db.table? name = some t) : db'.table? name = some t := by
  cases d with
  | table l =>
      simp only [Database.define?] at done
      split at done
      · cases done
        exact found
      · rename_i missing
        split at done
        · cases done
          have other : l.name ≠ name := by
            rintro rfl
            exact missing ((Keyed.contains_eq ..).trans (congrArg Option.isSome found))
          exact (table?_setTable ..).trans ((if_neg other).trans found)
        · cases done
  | index name table =>
      rcases define?_cases done with same | ⟨l, ⟨⟩, -⟩
      rw [same, found]

/-- No definition replaces a table that is there. -/
theorem table?_of_defineAll? {br : Breaks} {definitions : List Definition} {i : Nat}
    (done : db.defineAll? br i definitions = some db') {name : String} {t : Table}
    (found : db.table? name = some t) : db'.table? name = some t := by
  induction definitions generalizing i db with
  | nil =>
      cases done
      exact found
  | cons d rest ih =>
      obtain ⟨next, first, more⟩ := Option.bind_eq_some_iff.mp done
      exact ih more (table?_of_define? (part_eq_some first) found)

/-! ### Databases with the same steps made -/

def records (db : Database) : List (Cell × Cell) :=
  (((db.table? migrationLayout.name).map Table.rows).getD []).map fun row =>
    (row.getD 0 .null, row.getD 2 .null)

/-- No step is kept yet: the table of the steps is missing or has no rows. -/
def Unrecorded (db : Database) : Prop :=
  ∀ t, db.table? migrationLayout.name = some t → t.layout = migrationLayout ∧ t.rows = []

/-- Two databases with the same tables and indexes, and with the same content apart from the times
at which steps were kept. -/
structure Alike (a b : Database) : Prop where
  tables : ∀ name, name ≠ migrationLayout.name → a.table? name = b.table? name
  layout : (a.table? migrationLayout.name).map Table.layout =
    (b.table? migrationLayout.name).map Table.layout
  records : a.records = b.records
  indexes : a.indexes = b.indexes

/-- Some steps are kept in turn, each with its time. -/
def Kept (ms : List Migration) (db : Database) : Prop :=
  ∃ t, db.table? migrationLayout.name = some t ∧ t.Keeps ms

/-- Two databases on which the same steps have been made: they differ at most in the times of the
steps. -/
structure Level (ms : List Migration) (a b : Database) : Prop where
  tables : ∀ name, name ≠ migrationLayout.name → a.table? name = b.table? name
  indexes : a.indexes = b.indexes
  writable : a.writable = b.writable
  left : a.Kept ms
  right : b.Kept ms

theorem Kept.of_table? (kept : db.Kept ms)
    (same : ∀ t, db.table? migrationLayout.name = some t →
      db'.table? migrationLayout.name = some t) :
    db'.Kept ms := by
  obtain ⟨t, found, keeps⟩ := kept
  exact ⟨t, same t found, keeps⟩

theorem Level.contains (level : Level ms a b) (name : String) :
    a.tables.contains name = b.tables.contains name := by
  rw [Keyed.contains_eq, Keyed.contains_eq]
  by_cases book : name = migrationLayout.name
  · obtain ⟨t, found, -⟩ := level.left
    obtain ⟨u, found', -⟩ := level.right
    rw [book]
    exact (congrArg Option.isSome found).trans (congrArg Option.isSome found').symm
  · exact congrArg Option.isSome (level.tables name book)

/-- What can be defined in one of two such databases can be defined in the other. -/
theorem Level.define? (level : Level ms a b) {d : Definition} (done : a.define? d = some a') :
    ∃ b', b.define? d = some b' ∧ Level ms a' b' := by
  have book {db db' : Database} (made : db.define? d = some db')
    (kept : db.Kept ms) : db'.Kept ms :=
    kept.of_table? fun _ => table?_of_define? made
  cases d with
  | table l =>
      have step := done
      simp only [Database.define?] at step
      split at step
      · rename_i there
        cases step
        exact ⟨b, if_pos (level.contains l.name ▸ there), level⟩
      · rename_i missing
        split at step
        · rename_i writable
          cases step
          have made : b.define? (.table l) = some (b.setTable (.empty l)) := by
            rw [Database.define?, if_neg (level.contains l.name ▸ missing),
              if_pos (level.writable ▸ writable)]
          refine ⟨_, made, fun name other => ?_, level.indexes, level.writable,
            book done level.left,
            book made level.right⟩
          rw [table?_setTable, table?_setTable, level.tables name other]
        · cases step
  | index name table =>
      have step := done
      simp only [Database.define?] at step
      split at step
      · rename_i there
        cases step
        exact ⟨b, if_pos (level.indexes ▸ there), level⟩
      · rename_i missing
        split at step
        · rename_i able
          cases step
          have made : b.define? (.index name table) =
              some { b with indexes := b.indexes.insert name table } := by
            rw [Database.define?, if_neg (level.indexes ▸ missing),
              if_pos (level.writable ▸ level.contains table ▸ able)]
          exact ⟨_, made, level.tables, congrArg (·.insert name table) level.indexes,
            level.writable,
            book done level.left, book made level.right⟩
        · cases step

/-- What has been defined on one of two level databases can be defined on the other without a break,
and they stay level. -/
theorem Level.defineAll? (level : Level ms a b) {br : Breaks} {definitions : List Definition}
    {i : Nat} (done : a.defineAll? br i definitions = some a') :
    ∃ b', b.defineAll? .none i definitions = some b' ∧ Level ms a' b' := by
  induction definitions generalizing i a b with
  | nil =>
      cases done
      exact ⟨b, rfl, level⟩
  | cons d rest ih =>
      obtain ⟨next, first, more⟩ := Option.bind_eq_some_iff.mp done
      obtain ⟨next', first', level'⟩ := level.define? (part_eq_some first)
      obtain ⟨b', more', level''⟩ := ih level' more
      exact ⟨b', Option.bind_eq_some_iff.mpr ⟨next', first', more'⟩, level''⟩

/-- A later step than all that are kept can be kept if the file can be written. -/
theorem Kept.insert? (kept : db.Kept ms) {m : Migration} (later : ∀ n ∈ ms, n.version < m.version)
    (now : Int) : ∃ t, t.layout = migrationLayout ∧ (db.setTable t).Kept (ms ++ [m]) ∧
      db.insert? migrationLayout.name [("version", .integer m.version),
        ("applied_at", .integer now),
        ("description", .text m.description)] =
          if db.writable then some (db.setTable t, .integer m.version) else none := by
  obtain ⟨t, found, keeps⟩ := kept
  obtain ⟨t', taken, keeps'⟩ := keeps.insertRow? later now
  refine ⟨t', keeps'.layout, ⟨t', ?_, keeps'⟩, ?_⟩
  · rw [table?_setTable, if_pos (congrArg Layout.name keeps'.layout)]
  · have free : t'.layout.references = [] := by rw [keeps'.layout]; rfl
    simp only [Database.insert?, found, keeps.newRow?, taken, free, Option.bind_eq_bind,
      Option.bind_some, List.all_nil, Bool.and_true]
    rfl

/-- A step that is made on one of two such databases can be made on the other, whatever the time. -/
theorem Level.makeStep? (level : Level ms a b) {br : Breaks} {now : Int} {m : Migration}
    (later : ∀ n ∈ ms, n.version < m.version) (done : a.makeStep? br now m = some a') (now' : Int) :
    ∃ b', b.makeStep? .none now' m = some b' ∧ Level (ms ++ [m]) a' b' := by
  simp only [Database.makeStep?, Option.bind_eq_bind, Option.bind_eq_some_iff] at done
  obtain ⟨-, -, defined, parts, ⟨noted, key⟩, note, last⟩ := done
  cases part_eq_some last
  obtain ⟨defined', parts', level'⟩ := level.defineAll? parts
  obtain ⟨t, layout, kept, inserted⟩ := level'.left.insert? later now
  obtain ⟨t', layout', kept', inserted'⟩ := level'.right.insert? later now'
  have note := inserted.symm.trans (part_eq_some note)
  split at note
  · rename_i writable
    cases note
    rw [if_pos (level'.writable ▸ writable)] at inserted'
    refine ⟨defined'.setTable t', ?_, fun name other => ?_, level'.indexes, level'.writable,
      kept, kept'⟩
    · simp only [Database.makeStep?, Option.bind_eq_bind, Option.bind_eq_some_iff]
      exact ⟨(), rfl, defined', parts', (_, _), inserted', rfl⟩
    · rw [table?_setTable, table?_setTable, layout, layout', if_neg other.symm, if_neg other.symm,
        level'.tables name other]
  · cases note

/-- A step leaves the tables that are there as they are, apart from that of the steps. -/
theorem Kept.table?_makeStep? (kept : db.Kept ms) {br : Breaks} {now : Int} {m : Migration}
    (later : ∀ n ∈ ms, n.version < m.version) (done : db.makeStep? br now m = some db')
    {name : String}
    (other : name ≠ migrationLayout.name) {t : Table} (found : db.table? name = some t) :
    db'.table? name = some t := by
  simp only [Database.makeStep?, Option.bind_eq_bind, Option.bind_eq_some_iff] at done
  obtain ⟨-, -, defined, parts, ⟨noted, key⟩, note, last⟩ := done
  cases part_eq_some last
  obtain ⟨t', layout, -, inserted⟩ :=
    (kept.of_table? fun _ => table?_of_defineAll? parts).insert? later now
  have note := inserted.symm.trans (part_eq_some note)
  split at note
  · cases note
    rw [table?_setTable, layout, if_neg other.symm, table?_of_defineAll? parts found]
  · cases note

/-! ### What has been reached -/

/-- The steps of a list are numbered upwards, from above zero, in 32 bits. -/
structure Numbered (all : List Migration) : Prop where
  positive : ∀ m ∈ all, 0 < m.version
  narrow : ∀ m ∈ all, m.version < Nat.pow 2 31
  increasing : all.Pairwise fun m n => m.version < n.version

theorem Numbered.later {all rest : List Migration} {m : Migration} (numbered : Numbered all)
    (parts : ms ++ m :: rest = all) : ∀ n ∈ ms, n.version < m.version := by
  have increasing := numbered.increasing
  rw [← parts] at increasing
  exact fun n mem => (List.pairwise_append.mp increasing).2.2 n mem m List.mem_cons_self

/-- The version that is read is the last one that is kept; the steps with later versions are those
that have not been made. -/
theorem Kept.pending {all rest : List Migration} (numbered : Numbered all)
    (parts : ms ++ rest = all)
    (kept : db.Kept ms) : all.filter (fun m => db.schemaVersion < m.version) = rest := by
  obtain ⟨t, found, keeps⟩ := kept
  have made {m : Migration} (mem : m ∈ ms) : m ∈ all := parts ▸ List.mem_append_left _ mem
  have left {m : Migration} (mem : m ∈ rest) : m ∈ all := parts ▸ List.mem_append_right _ mem
  have apart : ∀ m ∈ ms, ∀ n ∈ rest, m.version < n.version := by
    have increasing := numbered.increasing
    rw [← parts] at increasing
    exact (List.pairwise_append.mp increasing).2.2
  -- the greatest version of those that are kept
  obtain ⟨v, version, upper, lower⟩ : ∃ v, db.schemaVersion = v ∧ (∀ m ∈ ms, m.version ≤ v) ∧
      ∀ n ∈ rest, v < n.version := by
    simp only [schemaVersion, found, Option.map_some, Option.getD_some, keeps.numbers]
    cases greatest : (ms.map Migration.version).max? with
    | none =>
        obtain rfl : ms = [] := by simpa using greatest
        exact ⟨0, rfl, List.forall_mem_nil _, fun n mem => numbered.positive n (left mem)⟩
    | some v =>
        obtain ⟨among, upper⟩ := List.max?_eq_some_iff.mp greatest
        obtain ⟨m, mem, rfl⟩ := List.mem_map.mp among
        have positive := numbered.positive m (made mem)
        have narrow := numbered.narrow m (made mem)
        refine ⟨m.version, ?_, fun n mem' => upper _ (List.mem_map_of_mem mem'), apart m mem⟩
        simp only [Option.getD_some, Nat.pow_eq, Nat.reducePow] at narrow ⊢
        exact Int.bmod_eq_of_le (by omega) (by omega)
  rw [version, ← parts, List.filter_append, List.filter_eq_nil_iff.mpr, List.filter_eq_self.mpr,
    List.nil_append]
  · exact fun n mem => decide_eq_true (lower n mem)
  · exact fun m mem => by simpa using upper m mem

/-- What an uninterrupted call at some time makes of a database in some steps, these steps being
kept in turn: another database with the same steps made is level with it. -/
structure Reached (first : Database) (now : Int) (ms : List Migration) (db : Database) : Prop where
  level : ∃ start whole, first.define? (.table migrationLayout) = some start ∧
    start.applyAll (fun _ => .none) now ms = (whole, true) ∧ Level ms db whole
  tables : ∀ name, name ≠ migrationLayout.name → ∀ t, first.table? name = some t →
    db.table? name = some t

theorem Reached.kept {first : Database} {now : Int} (reached : Reached first now ms db) :
    db.Kept ms := by
  obtain ⟨_, _, _, _, level⟩ := reached.level
  exact level.left

/-- Steps that succeed one after the other are the steps of one call. -/
theorem applyAll_append {br : Int → Breaks} {now : Int} {start : Database} {m : Migration}
    (done : start.applyAll br now ms = (db, true))
    (made : db.makeStep? (br m.version) now m = some db') :
    start.applyAll br now (ms ++ [m]) = (db', true) := by
  induction ms generalizing start with
  | nil =>
      cases done
      rw [List.nil_append, Database.applyAll, made]
      rfl
  | cons n rest ih =>
      unfold Database.applyAll at done
      rw [List.cons_append, Database.applyAll]
      split at done
      · exact ih done
      · cases done

/-- To make the table of the steps where no step is kept is to reach the start. -/
theorem Reached.start {first : Database} (now : Int)
    (unrecorded : first.Unrecorded) (done : first.define? (.table migrationLayout) = some db) :
    Reached first now [] db := by
  have kept : db.Kept [] := by
    cases found : first.table? migrationLayout.name with
    | some t =>
        obtain ⟨layout, rows⟩ := unrecorded t found
        exact ⟨t, table?_of_define? done found, layout, rows ▸ .nil⟩
    | none =>
        have missing : first.tables.contains migrationLayout.name = false :=
          (Keyed.contains_eq ..).trans (congrArg Option.isSome found)
        have step := done
        rw [Database.define?, missing, if_neg Bool.false_ne_true] at step
        split at step
        · cases step
          exact ⟨_, (table?_setTable ..).trans (if_pos rfl), rfl, .nil⟩
        · cases step
  exact ⟨⟨db, db, done, rfl, fun _ _ => rfl, rfl, rfl, kept, kept⟩,
    fun _ _ _ found => table?_of_define? done found⟩

/-- A step that is made on what has been reached reaches the next. -/
theorem Reached.makeStep? {first : Database} {now now' : Int} {br : Breaks} {m : Migration}
    (reached : Reached first now ms db) (later : ∀ n ∈ ms, n.version < m.version)
    (done : db.makeStep? br now' m = some db') : Reached first now (ms ++ [m]) db' := by
  obtain ⟨⟨start, whole, defined, applied, level⟩, tables⟩ := reached
  obtain ⟨whole', made, level'⟩ := level.makeStep? later done now
  exact ⟨⟨start, whole', defined, applyAll_append applied made, level'⟩, fun name other t found =>
    level.left.table?_makeStep? later done other (tables name other t found)⟩

/-- Where steps are kept their table is not made again. -/
theorem Kept.define? (kept : db.Kept ms) : db.define? (.table migrationLayout) = some db := by
  obtain ⟨t, found, -⟩ := kept
  exact if_pos ((Keyed.contains_eq ..).trans (congrArg Option.isSome found))

theorem Kept.records (kept : db.Kept ms) : db.records = ms.map Migration.record := by
  obtain ⟨t, found, keeps⟩ := kept
  simp only [Database.records, found, Option.map_some, Option.getD_some, keeps.records]

theorem Level.alike (level : Level ms a b) : a.Alike b where
  tables := level.tables
  layout := by
    obtain ⟨t, found, keeps⟩ := level.left
    obtain ⟨u, found', keeps'⟩ := level.right
    rw [found, found', Option.map_some, Option.map_some, keeps.layout, keeps'.layout]
  records := level.left.records.trans level.right.records.symm
  indexes := level.indexes

end Database

/-! ### Histories of calls -/

namespace Progress

open Database

variable {all : List Migration} {first : Database} {now : Int} {p : Progress}

/-- The first steps of a list have been made. -/
def Begun (all : List Migration) (first : Database) (now : Int) (p : Progress) : Prop :=
  p.made <+: all ∧ Reached first now p.made p.db

/-- A moment in a history of calls: nothing has happened yet, or the first steps have been made. -/
def Sound (all : List Migration) (first : Database) (now : Int) (p : Progress) : Prop :=
  p = ⟨first, []⟩ ∨ p.Begun all first now

/-- What a call finds once the table of the steps is there. -/
theorem Sound.defined (sound : p.Sound all first now) (unrecorded : first.Unrecorded)
    {db : Database} (done : p.db.define? (.table migrationLayout) = some db) :
    Begun all first now ⟨db, p.made⟩ := by
  rcases sound with rfl | ⟨part, reached⟩
  · exact ⟨List.nil_prefix, .start now unrecorded done⟩
  · cases done.symm.trans reached.kept.define?
    exact ⟨part, reached⟩

/-- Wherever a call breaks off, it has made the first of the steps that were left. -/
theorem begun_through (numbered : Numbered all) (c : Call) {rest : List Migration}
    (parts : p.made ++ rest = all) (reached : Reached first now p.made p.db) :
    ∀ q ∈ p.through c rest, q.Begun all first now := by
  induction rest generalizing p with
  | nil => exact List.forall_mem_nil _
  | cons m rest ih =>
      unfold through
      split
      · rename_i db made
        have next := reached.makeStep? (numbered.later parts) made
        have parts' : (p.made ++ [m]) ++ rest = all := (List.append_assoc ..).trans parts
        exact List.forall_mem_cons.mpr ⟨⟨⟨rest, parts'⟩, next⟩, ih parts' next⟩
      · exact List.forall_mem_nil _

/-- A call goes on from where the calls before it have stopped. -/
theorem Sound.passes (sound : p.Sound all first now) (numbered : Numbered all)
    (unrecorded : first.Unrecorded) (c : Call) : ∀ q ∈ p.passes all c, q.Begun all first now := by
  unfold Progress.passes
  split
  · exact List.forall_mem_nil _
  · rename_i db defined
    obtain ⟨⟨rest, parts⟩, reached⟩ := sound.defined unrecorded (part_eq_some defined)
    refine List.forall_mem_cons.mpr ⟨⟨⟨rest, parts⟩, reached⟩, ?_⟩
    split
    · exact List.forall_mem_nil _
    · rename_i version read
      cases part_eq_some read
      rw [reached.kept.pending numbered parts]
      exact begun_through numbered c parts reached

/-- A call that succeeds makes all steps that have not been made. -/
theorem Sound.made_of_succeeds (sound : p.Sound all first now) (numbered : Numbered all)
    (unrecorded : first.Unrecorded) {c : Call} (succeeds : c.succeeds all p.db = true) :
    (p.passes all c).getLastD p ∈ p.passes all c ∧ ((p.passes all c).getLastD p).made = all := by
  unfold Call.succeeds Database.migrate at succeeds
  unfold Progress.passes
  cases defined : (c.breaks 0).part 0 (p.db.define? (.table migrationLayout)) with
  | none =>
      rw [defined] at succeeds
      cases succeeds
  | some db =>
      obtain ⟨⟨rest, parts⟩, reached⟩ := sound.defined unrecorded (part_eq_some defined)
      rw [defined] at succeeds
      dsimp only at succeeds ⊢
      rw [List.getLastD_cons]
      refine ⟨List.getLastD_mem_cons, ?_⟩
      cases read : (c.breaks 0).part 1 (some db.schemaVersion) with
      | none =>
          rw [read] at succeeds
          cases succeeds
      | some version =>
          rw [read] at succeeds
          dsimp only at succeeds ⊢
          cases part_eq_some read
          rw [reached.kept.pending numbered parts] at succeeds ⊢
          exact ((getLastD_through c rest ⟨db, p.made⟩).2 succeeds).trans parts

/-- Where the last moment of some calls stands. -/
def after (all : List Migration) (calls : List Call) (p : Progress) : Progress :=
  calls.foldl (fun p c => (p.passes all c).getLastD p) p

theorem getLast?_history (calls : List Call) (p : Progress) :
    (p.history all calls).getLast? = some (p.after all calls) := by
  induction calls generalizing p with
  | nil => rfl
  | cons c rest ih =>
      have := ih ((p.passes all c).getLastD p)
      rw [history, List.getLast?_cons, List.getLast?_append, this]
      rfl

theorem db_after (all : List Migration) (calls : List Call) (p : Progress) :
    (p.after all calls).db = calls.foldl (fun db c => c.leaves all db) p.db := by
  induction calls generalizing p with
  | nil => rfl
  | cons c rest ih =>
      have := ih ((p.passes all c).getLastD p)
      rwa [db_getLastD_passes] at this

/-- Every moment of a history of calls is sound. -/
theorem Sound.history (sound : p.Sound all first now) (numbered : Numbered all)
    (unrecorded : first.Unrecorded) (calls : List Call) :
    ∀ q ∈ p.history all calls, q.Sound all first now := by
  induction calls generalizing p with
  | nil => exact List.forall_mem_singleton.mpr sound
  | cons c rest ih =>
      have passed : ∀ q ∈ p.passes all c, q.Sound all first now :=
        fun q mem => .inr (sound.passes numbered unrecorded c q mem)
      refine List.forall_mem_cons.mpr ⟨sound, List.forall_mem_append.mpr ⟨passed, ih ?_⟩⟩
      exact List.forall_mem_cons.mpr ⟨sound, passed⟩ _ List.getLastD_mem_cons

end Progress

namespace Database

variable {all : List Migration} {first db : Database}

/-- A call on a database with all steps made changes nothing, whether or not it is broken off. -/
theorem Kept.leaves_eq (kept : db.Kept all) (numbered : Numbered all) (c : Call) :
    c.leaves all db = db := by
  unfold Call.leaves Database.migrate
  split
  · rfl
  · rename_i defined
    cases (part_eq_some defined).symm.trans kept.define?
    split
    · rfl
    · rename_i read
      cases part_eq_some read
      rw [kept.pending numbered (List.append_nil all)]
      rfl

/-- What an uninterrupted call makes of a database. -/
theorem Reached.whole {now : Int} (reached : Reached first now all db) (numbered : Numbered all)
    (unrecorded : first.Unrecorded) :
    (Call.sound now).succeeds all first = true ∧
    Level all db ((Call.sound now).leaves all first) := by
  obtain ⟨start, whole, defined, applied, level⟩ := reached.level
  have empty := (Reached.start now unrecorded defined).kept
  have done : first.migrate (fun _ => .none) now all = (whole, true) := by
    have read : first.migrate (fun _ => .none) now all =
        start.applyAll (fun _ => .none) now (all.filter fun m =>
            start.schemaVersion < m.version) := by
      unfold Database.migrate
      rw [show (Breaks.none).part 0 (first.define? (.table migrationLayout)) = some start from
        defined]
      rfl
    rw [read, empty.pending numbered (List.nil_append all), applied]
  exact ⟨congrArg Prod.snd done, by rw [Call.leaves, Call.sound, done]; exact level⟩

/-- Calls that bring a database up to date go on where the last one was broken off. At each moment
between two transactions the steps that are kept are those that have been made, which are the first
ones of the list, and the tables that were there are as they were. A call that succeeds ends with
every step made once and in turn; what it leaves is what one uninterrupted call would have left,
apart from times; and further calls change nothing. -/
theorem upgrade_resumes (numbered : Numbered all) (unrecorded : first.Unrecorded)
    (calls : List Call) :
    (∀ p ∈ Progress.history all calls ⟨first, []⟩,
      p.made <+: all ∧ p.db.records = p.made.map Migration.record ∧
        ∀ name, name ≠ migrationLayout.name → ∀ t, first.table? name = some t →
          p.db.table? name = some t) ∧
    ∀ last : Call, ∀ before, before = calls.foldl (fun db c => c.leaves all db) first →
      last.succeeds all before = true →
      ∃ p, (Progress.history all (calls ++ [last]) ⟨first, []⟩).getLast? = some p ∧
        p.db = last.leaves all before ∧ p.made = all ∧
        (∀ now, (Call.sound now).succeeds all first = true ∧
          p.db.Alike ((Call.sound now).leaves all first)) ∧
        ∀ again : Call, again.leaves all p.db = p.db := by
  have sound (now : Int) : Progress.Sound all first now ⟨first, []⟩ := .inl rfl
  constructor
  · intro p mem
    rcases (sound 0).history numbered unrecorded calls p mem with rfl | ⟨part, reached⟩
    · refine ⟨List.nil_prefix, ?_, fun _ _ _ found => found⟩
      unfold Database.records
      cases found : first.table? migrationLayout.name with
      | none => rfl
      | some t => simp [(unrecorded t found).2]
    · exact ⟨part, reached.kept.records, reached.tables⟩
  · rintro last _ rfl succeeds
    have here (now : Int) : Progress.Sound all first now (Progress.after all calls ⟨first, []⟩) :=
      (sound now).history numbered unrecorded calls _
        (List.mem_of_getLast? (Progress.getLast?_history calls _))
    rw [← Progress.db_after all calls ⟨first, []⟩] at succeeds ⊢
    obtain ⟨passed, made⟩ := (here 0).made_of_succeeds numbered unrecorded succeeds
    have reached (now : Int) : Reached first now all
      (((Progress.after all calls ⟨first, []⟩).passes all
        last).getLastD (.after all calls ⟨first, []⟩)).db := by
      have begun := (here now).passes numbered unrecorded last _ passed
      rw [Progress.Begun, made] at begun
      exact begun.2
    refine ⟨_, ?_, Progress.db_getLastD_passes .., made, fun now => ?_, ?_⟩
    · rw [Progress.getLast?_history, Progress.after, List.foldl_append]
      rfl
    · obtain ⟨done, level⟩ := (reached now).whole numbered unrecorded
      exact ⟨done, level.alike⟩
    · exact (reached 0).kept.leaves_eq numbered

/-! ### One call that is broken off -/

theorem numbered_migrations : Numbered migrations := ⟨by decide, by decide, by decide⟩

def stocked : Database :=
  ((Database.empty.setTable (.empty netboxLayout)).insert? netboxLayout.name
    [("netboxid", .integer 1), ("ip", .text "192.0.2.1"), ("sysname", .text "node")]).elim .empty
      (·.1)

/-- A call that breaks off when the second table of the second step is made. -/
def brokenOff : Call := ⟨fun version part => version == 2 && part == 2, 1⟩

theorem brokenOff_resumes :
    Numbered migrations ∧ stocked.Unrecorded ∧
      (brokenOff.leaves migrations stocked).records.length = 1 ∧
      (Call.sound 2).succeeds migrations (brokenOff.leaves migrations stocked) = true ∧
      ∃ p, (Progress.history migrations [brokenOff, .sound 2] ⟨stocked, []⟩).getLast? = some p ∧
        p.made = migrations ∧ p.db.Alike ((Call.sound 0).leaves migrations stocked) := by
  have missing : stocked.table? migrationLayout.name = none := by decide +kernel
  have unrecorded : stocked.Unrecorded := fun t found => by cases missing.symm.trans found
  have succeeds : (Call.sound 2).succeeds migrations (brokenOff.leaves migrations stocked) =
    true := by
    decide +kernel
  obtain ⟨p, last, -, made, alike, -⟩ :=
    (upgrade_resumes numbered_migrations unrecorded [brokenOff]).2 (.sound 2) _ rfl succeeds
  exact ⟨numbered_migrations, unrecorded, by decide +kernel, succeeds, p, last, made, (alike 0).2⟩

end Database

end Vigil.Store
