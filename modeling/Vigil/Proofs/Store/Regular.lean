import Vigil.Store.Gateway

/-!
Tables and databases in good order, and what statements do to them.

Main definitions: `Store.Table.Regular`, the rows fill the columns and have keys of their own;
`Store.Database.Regular`, all tables are such and laid out as planned. Main statements:
`Store.Table.Regular.cell?_setAt?_self` and `Store.Table.Regular.cell?_setAt?_of_ne`, setting a
column changes its values at one key and no others; `Store.Database.Regular.migrate`, what the steps
of the program make is in good order.
-/

namespace Vigil.Store

/-- No two columns stand in the same place. -/
theorem Layout.eq_of_position? {l : Layout} {a b : String} {i : Nat} (ha : l.position? a = some i)
    (hb : l.position? b = some i) : a = b := by
  obtain ⟨inside, here, -⟩ := List.findIdx?_eq_some_iff_getElem.mp ha
  obtain ⟨_, there, -⟩ := List.findIdx?_eq_some_iff_getElem.mp hb
  exact (beq_iff_eq.mp here).symm.trans (beq_iff_eq.mp there)

namespace Table

/-! ### Rows in their places -/

theorem placeRow_perm (l : Layout) (row : Row) (rows : List Row) :
    (placeRow l row rows).Perm (row :: rows) := by
  induction rows with
  | nil => exact .refl _
  | cons other rest ih =>
      unfold placeRow
      split
      · exact .refl _
      · exact (ih.cons other).trans (.swap row other rest)

/-- A table whose rows fill the columns and have keys of their own. -/
structure Regular (t : Table) : Prop where
  wide : ∀ row ∈ t.rows, row.length = t.layout.columns.length
  apart : t.rows.Pairwise fun a b => t.layout.keyOf a ≠ t.layout.keyOf b

/-- A row that is taken in joins the others. -/
theorem insertRow?_eq_some {t t' : Table} {row : Row} (taken : t.insertRow? row = some t') :
    t'.layout = t.layout ∧ t'.rows.Perm (row :: t.rows) ∧
      ∀ other ∈ t.rows, t.layout.keyOf other ≠ t.layout.keyOf row := by
  unfold insertRow? at taken
  split at taken
  · rename_i fits
    cases taken
    simp only [hasKey, Bool.and_eq_true, Bool.not_eq_true', List.any_eq_false, beq_iff_eq] at fits
    exact ⟨rfl, placeRow_perm t.layout row t.rows, fits.2⟩
  · cases taken

/-- A row is taken in only if its key is not taken. -/
theorem Regular.insertRow? {t t' : Table} {row : Row} (regular : t.Regular)
    (taken : t.insertRow? row = some t') (wide : row.length = t.layout.columns.length) :
    t'.Regular := by
  obtain ⟨layout, perm, free⟩ := insertRow?_eq_some taken
  refine ⟨fun other mem => ?_, ?_⟩
  · rw [layout]
    rcases List.mem_cons.mp (perm.mem_iff.mp mem) with rfl | mem
    · exact wide
    · exact regular.wide other mem
  · rw [layout, perm.pairwise_iff fun h => h.symm]
    exact List.pairwise_cons.mpr ⟨fun other mem => (free other mem).symm, regular.apart⟩

/-! ### Setting a column -/

/-- Rows taken in one after the other join the others. -/
theorem foldlM_insertRow? {changed : List Row} {t t' : Table}
    (taken : changed.foldlM
      (fun t row => do return { (← t.insertRow? row) with counter := t.counter }) t = some t')
    (regular : t.Regular)
    (wide : ∀ row ∈ changed, row.length = t.layout.columns.length) :
    t'.layout = t.layout ∧ t'.rows.Perm (changed ++ t.rows) ∧ t'.Regular := by
  induction changed generalizing t with
  | nil =>
      cases taken
      exact ⟨rfl, .refl _, regular⟩
  | cons row rest ih =>
      simp only [List.foldlM_cons, Option.bind_eq_bind, Option.bind_eq_some_iff, Option.pure_def,
        Option.some.injEq] at taken
      obtain ⟨_, ⟨next, took, rfl⟩, more⟩ := taken
      obtain ⟨layout, perm, -⟩ := insertRow?_eq_some took
      have next_regular := regular.insertRow? took (wide row List.mem_cons_self)
      obtain ⟨layout', perm', regular'⟩ := ih more ⟨next_regular.wide, next_regular.apart⟩
        fun other mem => (wide other (List.mem_cons_of_mem _ mem)).trans (by rw [layout])
      refine ⟨layout'.trans layout, perm'.trans ?_, regular'⟩
      exact (perm.append_left rest).trans List.perm_middle

def setRow (t : Table) (i : Nat) (value key : Cell) (row : Row) : Row :=
  if t.isAt key row then row.set i value else row

theorem getElem?_setRow_of_ne (t : Table) {i j : Nat} (ne : i ≠ j) (value key : Cell) (row : Row) :
    (t.setRow i value key row)[j]? = row[j]? := by
  unfold setRow
  split
  · exact List.getElem?_set_ne ne
  · rfl

/-- Setting a column changes the rows of a key and keeps the others. -/
theorem Regular.setAt? {t t' : Table} {column : String} {value key : Cell} {i : Nat} {c : Column}
    (regular : t.Regular) (set : t.setAt? column value key = some t')
    (place : t.layout.position? column = some i) (kind : t.layout.columns[i]? = some c) :
    t'.layout = t.layout ∧ t'.Regular ∧
      t'.rows.Perm (t.rows.map (t.setRow i (Cell.convert c.affinity value) key)) := by
  simp only [Table.setAt?, place, kind, Option.bind_eq_bind, Option.bind_some] at set
  have kept : Table.Regular { t with rows := t.rows.filter fun row => !t.isAt key row } :=
    ⟨fun row mem => regular.wide row (List.mem_filter.mp mem).1, regular.apart.filter _⟩
  obtain ⟨layout, perm, regular'⟩ := foldlM_insertRow? set kept (by
    intro row mem
    obtain ⟨old, held, rfl⟩ := List.mem_map.mp mem
    simpa using regular.wide old (List.mem_filter.mp held).1)
  refine ⟨layout, regular', perm.trans ?_⟩
  have here : (t.rowsAt key).map (fun row => row.set i (Cell.convert c.affinity value)) =
      (t.rows.filter (t.isAt key)).map (t.setRow i (Cell.convert c.affinity value) key) :=
    List.map_congr_left fun row mem => by rw [setRow, if_pos (List.mem_filter.mp mem).2]
  have there : (t.rows.filter fun row => !t.isAt key row) =
      (t.rows.filter fun row => !t.isAt key row).map
        (t.setRow i (Cell.convert c.affinity value) key) := by
    refine (List.map_id' _).symm.trans (List.map_congr_left fun row mem => ?_)
    have away : t.isAt key row = false := by simpa using (List.mem_filter.mp mem).2
    simp [setRow, away]
  rw [here]
  conv => lhs; rhs; rw [there]
  rw [← List.map_append]
  exact (List.filter_append_perm _ _).map _

/-! ### Rows of a key -/

theorem mem_rowsAt {t : Table} {key : Cell} {row : Row} :
    row ∈ t.rowsAt key ↔ row ∈ t.rows ∧ t.isAt key row = true := List.mem_filter

theorem isAt_congr {t t' : Table} (layout : t'.layout = t.layout) (key : Cell) (row : Row) :
    t'.isAt key row = t.isAt key row := by
  simp only [isAt, layout]

/-- A row stays at its key if another column than the first is set. -/
theorem isAt_setRow (t : Table) {i : Nat} (later : 0 < i) (value key key' : Cell) (row : Row) :
    t.isAt key' (t.setRow i value key row) = t.isAt key' row := by
  unfold setRow
  split
  · cases row with
    | nil => rfl
    | cons first rest =>
        obtain ⟨j, rfl⟩ := Nat.exists_eq_succ_of_ne_zero (Nat.ne_of_gt later)
        rfl
  · rfl

/-- A row at a key begins with the key. -/
theorem head?_of_isAt {t : Table} {key : Cell} {row : Row} (at_key : t.isAt key row = true) :
    ∃ c, t.layout.columns.head? = some c ∧ row.head? = some (Cell.convert c.affinity key) := by
  unfold isAt at at_key
  split at at_key
  · rename_i c v first head
    simp only [Bool.and_eq_true, beq_iff_eq] at at_key
    exact ⟨c, first, at_key.1 ▸ head⟩
  · cases at_key

/-- No two rows have the same number. -/
theorem Regular.length_rowsAt {t : Table} (regular : t.Regular)
    (numbered : t.layout.isNumbered = true) (key : Cell) : (t.rowsAt key).length ≤ 1 := by
  match rows : t.rowsAt key with
  | [] | [_] => simp
  | a :: b :: rest =>
      have apart := regular.apart.filter (t.isAt key)
      change (t.rowsAt key).Pairwise _ at apart
      have ha : a ∈ t.rowsAt key := by simp [rows]
      have hb : b ∈ t.rowsAt key := by simp [rows]
      obtain ⟨c, first, ha⟩ := head?_of_isAt (mem_rowsAt.mp ha).2
      obtain ⟨c', first', hb⟩ := head?_of_isAt (mem_rowsAt.mp hb).2
      rw [rows] at apart
      refine absurd ?_ ((List.pairwise_cons.mp apart).1 b List.mem_cons_self)
      obtain rfl : c = c' := by simpa [first] using first'
      simp only [Layout.keyOf]
      split
      · simp_all [Layout.isNumbered]
      · rw [List.take_one, List.take_one, ha, hb]

/-! ### Values of a key -/

def cell? (t : Table) (column : String) (key : Cell) : Option Cell :=
  (t.rowsAt key).head?.bind fun row => (t.layout.position? column).bind (row[·]?)

section Setting

variable {t t' : Table} {column : String} {value key : Cell} {i : Nat} {c : Column}

/-- There is one row at most at each key, and a column is set in no other row than the one at the
given key. -/
theorem Regular.rowsAt_setAt? (regular : t.Regular) (numbered : t.layout.isNumbered = true)
    (set : t.setAt? column value key = some t') (place : t.layout.position? column = some i)
    (kind : t.layout.columns[i]? = some c) (later : 0 < i) (key' : Cell) :
    t'.rowsAt key' = (t.rowsAt key').map (t.setRow i (Cell.convert c.affinity value) key) := by
  obtain ⟨layout, -, perm⟩ := regular.setAt? set place kind
  have rows : (t'.rowsAt key').Perm
      ((t.rowsAt key').map (t.setRow i (Cell.convert c.affinity value) key)) := by
    refine (perm.filter (t'.isAt key')).trans (.of_eq ?_)
    rw [List.filter_map]
    refine congrArg _ (List.filter_congr fun row _ => ?_)
    rw [Function.comp, isAt_congr layout, isAt_setRow t later]
  have one := regular.length_rowsAt numbered key'
  match old : t.rowsAt key' with
  | [] => simpa [old] using rows
  | [row] => simpa [old] using rows
  | _ :: _ :: _ => simp [old] at one

/-- Setting a column changes its value at the key. -/
theorem Regular.cell?_setAt?_self (regular : t.Regular) (numbered : t.layout.isNumbered = true)
    (set : t.setAt? column value key = some t') (place : t.layout.position? column = some i)
    (kind : t.layout.columns[i]? = some c) (later : 0 < i) :
    t'.cell? column key = (t.cell? column key).map fun _ => Cell.convert c.affinity value := by
  obtain ⟨layout, -, -⟩ := regular.setAt? set place kind
  simp only [cell?, layout, place, regular.rowsAt_setAt? numbered set place kind later]
  cases rows : t.rowsAt key with
  | nil => rfl
  | cons row rest =>
      obtain ⟨held, here⟩ := mem_rowsAt.mp (rows ▸ List.mem_cons_self : row ∈ t.rowsAt key)
      have inside : i < row.length := by
        rw [regular.wide row held]
        exact (List.getElem?_eq_some_iff.mp kind).1
      simp [setRow, here, inside]

/-- Setting a column changes no value of other columns and at other keys. -/
theorem Regular.cell?_setAt?_of_ne (regular : t.Regular) (numbered : t.layout.isNumbered = true)
    (set : t.setAt? column value key = some t') (place : t.layout.position? column = some i)
    (kind : t.layout.columns[i]? = some c) (later : 0 < i) {column' : String} {key' : Cell}
    (other : column' ≠ column ∨ ∀ row, t.isAt key' row = true → t.isAt key row = false) :
    t'.cell? column' key' = t.cell? column' key' := by
  obtain ⟨layout, -, -⟩ := regular.setAt? set place kind
  simp only [cell?, layout, regular.rowsAt_setAt? numbered set place kind later]
  cases rows : t.rowsAt key' with
  | nil => rfl
  | cons row rest =>
      have here := (mem_rowsAt.mp (rows ▸ List.mem_cons_self : row ∈ t.rowsAt key')).2
      rcases other with ne | away
      · cases place' : t.layout.position? column' with
        | none => rfl
        | some j =>
            have apart : i ≠ j := fun eq => ne (Layout.eq_of_position? place' (eq ▸ place))
            simp [getElem?_setRow_of_ne t apart]
      · simp [setRow, away row here]

end Setting

end Table

namespace Database

/-! ### Databases in good order -/

/-- The tables of the datastore as they are laid out. -/
def plan : List Layout :=
  [netboxLayout, serviceLayout, propertyLayout, eventLayout, eventDetailLayout, migrationLayout]

/-- A database in good order: tables stand under their names, those of the datastore are laid out as
planned, and all are regular. -/
structure Regular (db : Database) : Prop where
  named : ∀ name t, db.table? name = some t → t.layout.name = name
  planned : ∀ l ∈ plan, ∀ t, db.table? l.name = some t → t.layout = l
  regular : ∀ name t, db.table? name = some t → t.Regular

/-- The planned tables have different names. -/
theorem eq_of_mem_plan : ∀ l ∈ plan, ∀ l' ∈ plan, l.name = l'.name → l = l' := by decide

theorem Regular.empty : Regular .empty where
  named _ _ found := by cases found
  planned _ _ _ found := by cases found
  regular _ _ found := by cases found

theorem table?_setTable (db : Database) (t : Table) (name : String) :
    (db.setTable t).table? name = if t.layout.name = name then some t else db.table? name :=
  Keyed.get?_insert _ _ _ _

/-- Replacing one table by a good one of the same layout keeps the database regular. -/
theorem Regular.setTable {db : Database} (regular : db.Regular) {t : Table} (good : t.Regular)
    (fits : ∀ l ∈ plan, t.layout.name = l.name → t.layout = l) : (db.setTable t).Regular := by
  refine ⟨fun name t' found => ?_, fun l planned t' found => ?_, fun name t' found => ?_⟩
  all_goals
    rw [table?_setTable] at found
    split at found
  · cases found
    assumption
  · exact regular.named name t' found
  · cases found
    exact fits l planned ‹_›
  · exact regular.planned l planned t' found
  · cases found
    exact good
  · exact regular.regular name t' found

/-- A table may be put in the place of one that is laid out alike. -/
theorem Regular.replace {db : Database} (regular : db.Regular) {name : String} {t t' : Table}
    (found : db.table? name = some t) (layout : t'.layout = t.layout) (good : t'.Regular) :
    (db.setTable t').Regular := by
  refine regular.setTable good fun l planned same => ?_
  rw [layout] at same ⊢
  refine regular.planned l planned t ?_
  rw [← same, regular.named name t found, found]

/-! ### Statements -/

/-- A new row fills the columns. -/
theorem length_of_newRow? {t : Table} {given : List (String × Cell)} {row : Row}
    (made : t.newRow? given = some row) : row.length = t.layout.columns.length := by
  unfold Table.newRow? at made
  split at made
  · cases made
  · simp only at made
    split at made
    · rename_i rest columns
      have wide : rest.length + 1 = t.layout.columns.length := by
        simpa using (congrArg List.length columns).symm
      split at made
      · obtain ⟨n, -, rfl⟩ := Option.map_eq_some_iff.mp made
        exact wide
      · cases made
        simp
    · cases made
      simp

/-- What an insertion does: a row is made and joins the others of its table. -/
theorem insert?_eq_some {db db' : Database} {name : String} {given : List (String × Cell)}
    {key : Cell} (done : db.insert? name given = some (db', key)) :
    ∃ t row t', db.table? name = some t ∧ t.newRow? given = some row ∧ t.insertRow? row = some t' ∧
      db' = db.setTable t' := by
  simp only [insert?, Option.bind_eq_bind, Option.bind_eq_some_iff] at done
  obtain ⟨t, found, row, made, t', taken, done⟩ := done
  split at done
  · cases done
    exact ⟨t, row, t', found, made, taken, rfl⟩
  · cases done

/-- What an update does: a column of a table is set. -/
theorem update?_eq_some {db db' : Database} {name column : String} {value key : Cell} {n : Nat}
    (done : db.update? name column value key = some (db', n)) :
    ∃ t t', db.table? name = some t ∧ t.setAt? column value key = some t' ∧
    db' = db.setTable t' := by
  simp only [update?, Option.bind_eq_bind, Option.bind_eq_some_iff] at done
  obtain ⟨t, found, t', set, done⟩ := done
  split at done
  · cases done
    exact ⟨t, t', found, set, rfl⟩
  · cases done

theorem Regular.update? {db db' : Database} (regular : db.Regular) {l : Layout} (planned : l ∈ plan)
    {column : String} {i : Nat} {c : Column} {value key : Cell} {n : Nat}
    (place : l.position? column = some i) (kind : l.columns[i]? = some c)
    (done : db.update? l.name column value key = some (db', n)) : db'.Regular := by
  obtain ⟨t, t', found, set, rfl⟩ := update?_eq_some done
  have layout := regular.planned l planned t found
  rw [← layout] at place kind
  obtain ⟨layout', good, -⟩ := (regular.regular _ t found).setAt? set place kind
  exact regular.replace found layout' good

theorem Regular.insert? {db db' : Database} (regular : db.Regular) {name : String}
    {given : List (String × Cell)} {key : Cell} (done : db.insert? name given = some (db', key)) :
    db'.Regular := by
  obtain ⟨t, row, t', found, made, taken, rfl⟩ := insert?_eq_some done
  exact regular.replace found (Table.insertRow?_eq_some taken).1
    ((regular.regular name t found).insertRow? taken (length_of_newRow? made))

/-- An insertion leaves the other tables alone. -/
theorem Regular.table?_insert? {db db' : Database} (regular : db.Regular) {name : String}
    {given : List (String × Cell)} {key : Cell} (done : db.insert? name given = some (db', key))
    {other : String} (ne : other ≠ name) : db'.table? other = db.table? other := by
  obtain ⟨t, row, t', found, -, taken, rfl⟩ := insert?_eq_some done
  rw [table?_setTable, (Table.insertRow?_eq_some taken).1, regular.named name t found,
    if_neg ne.symm]

/-! ### Steps towards the tables -/

/-- A definition that is there already changes nothing about the tables; otherwise an empty one is
added, or an index. -/
theorem define?_cases {db db' : Database} {d : Definition} (done : db.define? d = some db') :
    (∀ name, db'.table? name = db.table? name) ∨ ∃ l, d = .table l ∧
    db' = db.setTable (.empty l) := by
  cases d with
  | table l =>
      simp only [Database.define?] at done
      split at done
      · cases done
        exact .inl fun _ => rfl
      · split at done
        · cases done
          exact .inr ⟨l, rfl, rfl⟩
        · cases done
  | index name table =>
      simp only [Database.define?] at done
      split at done
      · cases done
        exact .inl fun _ => rfl
      · split at done
        · cases done
          exact .inl fun _ => rfl
        · cases done

/-- A database of which each table is one of another database in good order. -/
theorem Regular.of_tables {db db' : Database} (regular : db.Regular)
    (tables : ∀ name t, db'.table? name = some t → db.table? name = some t) : db'.Regular where
  named name t found := regular.named name t (tables name t found)
  planned l mem t found := regular.planned l mem t (tables _ t found)
  regular name t found := regular.regular name t (tables name t found)

theorem Regular.define? {db db' : Database} (regular : db.Regular) {d : Definition}
    (done : db.define? d = some db') (planned : ∀ l, d = .table l → l ∈ plan) : db'.Regular := by
  rcases define?_cases done with same | ⟨l, rfl, rfl⟩
  · exact regular.of_tables fun name t found => (same name).symm.trans found
  · exact regular.setTable ⟨by simp [Table.empty], by simp [Table.empty]⟩
      fun l' mem => eq_of_mem_plan l (planned l rfl) l' mem

/-- A part that does not break gives what it gives. -/
theorem part_eq_some {α : Type} {b : Breaks} {i : Nat} {x : Option α} {a : α}
    (held : b.part i x = some a) : x = some a := by
  unfold Breaks.part at held
  split at held
  · cases held
  · exact held

/-- A property that a database keeps when tables are defined as planned, and when rows are
inserted. -/
structure KeptBySteps (p : Database → Prop) : Prop where
  define : ∀ {db db' : Database} {d : Definition}, p db → (∀ l, d = .table l → l ∈ plan) →
    db.define? d = some db' → p db'
  insert : ∀ {db db' : Database} {name : String} {given : List (String × Cell)} {key : Cell}, p db →
    db.insert? name given = some (db', key) → p db'

section Steps

variable {p : Database → Prop} {db db' : Database}

/-- What every definition keeps is kept by all of them in turn. -/
theorem KeptBySteps.defineAll? (kept : KeptBySteps p) {b : Breaks} {definitions : List Definition}
    {i : Nat} (holds : p db) (planned : ∀ l, .table l ∈ definitions → l ∈ plan)
    (done : db.defineAll? b i definitions = some db') : p db' := by
  induction definitions generalizing i db with
  | nil =>
      cases done
      exact holds
  | cons d rest ih =>
      obtain ⟨next, first, more⟩ := Option.bind_eq_some_iff.mp done
      refine ih (kept.define holds ?_ (part_eq_some first))
        (fun l mem => planned l (List.mem_cons_of_mem _ mem)) more
      rintro l rfl
      exact planned l List.mem_cons_self

theorem KeptBySteps.makeStep? (kept : KeptBySteps p) {b : Breaks} {now : Int} {m : Migration}
    (holds : p db)
    (planned : ∀ l, .table l ∈ m.definitions → l ∈ plan) (done : db.makeStep? b now m = some db') :
    p db' := by
  simp only [Database.makeStep?, Option.bind_eq_bind, Option.bind_eq_some_iff] at done
  obtain ⟨-, -, defined, parts, ⟨noted, key⟩, note, last⟩ := done
  cases part_eq_some last
  exact kept.insert (kept.defineAll? holds planned parts) (part_eq_some note)

/-- And so by all steps, also if one of them fails. -/
theorem KeptBySteps.applyAll (kept : KeptBySteps p) {b : Int → Breaks} {now : Int}
    {steps : List Migration}
    (holds : p db) (planned : ∀ m ∈ steps, ∀ l, .table l ∈ m.definitions → l ∈ plan) :
    p (db.applyAll b now steps).1 := by
  induction steps generalizing db with
  | nil => exact holds
  | cons m rest ih =>
      obtain ⟨first, more⟩ := List.forall_mem_cons.mp planned
      unfold Database.applyAll
      split
      · rename_i made
        exact ih (kept.makeStep? holds first made) more
      · exact holds

/-- Bringing a database up to date keeps such a property, whatever breaks on the way. -/
theorem KeptBySteps.migrate (kept : KeptBySteps p) (holds : p db) (b : Int → Breaks) (now : Int) :
    p (db.migrate b now migrations).1 := by
  unfold Database.migrate
  split
  · exact holds
  · rename_i defined
    have made := kept.define holds (by rintro l ⟨⟩; simp [plan]) (part_eq_some defined)
    split
    · exact made
    · have planned : ∀ m ∈ migrations, ∀ l, .table l ∈ m.definitions → l ∈ plan := by
        simp [migrations, plan]
      exact kept.applyAll made fun m mem => planned m (List.mem_filter.mp mem).1

end Steps

theorem Regular.keptBySteps : KeptBySteps Regular where
  define regular planned done := regular.define? done planned
  insert regular done := regular.insert? done

/-- Bringing a database up to date keeps it in good order, whatever breaks on the way. -/
theorem Regular.migrate {b : Int → Breaks} {now : Int} {db : Database} (regular : db.Regular) :
    (db.migrate b now migrations).1.Regular :=
  keptBySteps.migrate regular b now

end Database

end Vigil.Store
