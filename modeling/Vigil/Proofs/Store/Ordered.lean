import Mathlib.Data.List.Pairwise
import Vigil.Proofs.Store.Known

/-!
Databases whose rows stand in order. Where numbers tell the rows of a table apart, each row has one
and stands behind those of smaller numbers, so that to read the rows is to read them by their
numbers.

Main definitions: `Store.Database.Ordered`, a database in good order with all rows in theirs;
`Store.Database.Made`, what statements make of an empty database. Main statement:
`Store.Database.Made.ordered`.
-/

namespace Vigil.Store

/-! ### Rows and their numbers -/

def Earlier (a b : Row) : Prop :=
  ∃ m n, a.head? = some (.integer m) ∧ b.head? = some (.integer n) ∧ m < n

theorem Earlier.lt {a b : Row} (earlier : Earlier a b) {m n : Int}
    (ha : a.head? = some (.integer m)) (hb : b.head? = some (.integer n)) : m < n := by
  obtain ⟨m', n', ha', hb', less⟩ := earlier
  rw [ha] at ha'
  rw [hb] at hb'
  cases ha'
  cases hb'
  exact less

theorem Earlier.head?_ne {a b : Row} (earlier : Earlier a b) : a.head? ≠ b.head? := by
  intro same
  obtain ⟨m, n, ha, hb, less⟩ := earlier
  rw [ha, hb] at same
  cases same
  exact Int.lt_irrefl m less

/-- Among rows in order there is at most one of a number. -/
theorem eq_of_head? {rows : List Row} (sorted : rows.Pairwise Earlier) {a b : Row} (ha : a ∈ rows)
    (hb : b ∈ rows) (same : a.head? = b.head?) : a = b := by
  by_contra ne
  have apart : rows.Pairwise fun a b => a.head? ≠ b.head? :=
    sorted.imp fun earlier => earlier.head?_ne
  have : Std.Symm fun a b : Row => a.head? ≠ b.head? := ⟨fun _ _ other => other.symm⟩
  exact apart.forall ha hb ne same

namespace Table

theorem keyOf_numbered {l : Layout} (numbered : l.isNumbered = true) (row : Row) :
    l.keyOf row = row.head?.toList := by
  unfold Layout.keyOf
  split
  · rename_i pair
    rw [Layout.isNumbered, pair] at numbered
    cases numbered
  · exact List.take_one

theorem rowPrecedes_keyOf {l : Layout} (numbered : l.isNumbered = true) {a b : Row} {m n : Int}
    (ha : a.head? = some (.integer m)) (hb : b.head? = some (.integer n)) :
    Cell.rowPrecedes (l.keyOf a) (l.keyOf b) = decide (m < n) := by
  rw [keyOf_numbered numbered, keyOf_numbered numbered, ha, hb]
  simp [Cell.rowPrecedes, Cell.precedes, Cell.rank, Cell.fraction]

/-- A table whose rows stand in the order of their numbers, if they have any. -/
structure Ordered (t : Table) : Prop where
  numbers : t.layout.isNumbered = true → ∀ row ∈ t.rows, ∃ n, row.head? = some (.integer n)
  sorted : t.layout.isNumbered = true → t.rows.Pairwise Earlier

/-- A row with a new number that is put in its place stands in order. -/
theorem sorted_placeRow {l : Layout} (numbered : l.isNumbered = true) {row : Row} {n : Int}
    (head : row.head? = some (.integer n)) {rows : List Row}
    (others : ∀ other ∈ rows, ∃ m, other.head? = some (.integer m) ∧ m ≠ n)
    (sorted : rows.Pairwise Earlier) : (placeRow l row rows).Pairwise Earlier := by
  induction rows with
  | nil => exact List.pairwise_singleton _ _
  | cons other rest ih =>
      obtain ⟨⟨m, here, ne⟩, more⟩ := List.forall_mem_cons.mp others
      obtain ⟨first, tail⟩ := List.pairwise_cons.mp sorted
      unfold placeRow
      rw [rowPrecedes_keyOf numbered head here]
      by_cases less : n < m
      · rw [if_pos (decide_eq_true less)]
        refine List.pairwise_cons.mpr ⟨List.forall_mem_cons.mpr ⟨⟨n, m, head, here, less⟩, ?_⟩,
          sorted⟩
        intro x mem
        obtain ⟨k, number, -⟩ := more x mem
        exact ⟨n, k, head, number, Int.lt_trans less ((first x mem).lt here number)⟩
      · rw [if_neg (by simpa using less)]
        refine List.pairwise_cons.mpr ⟨fun x mem => ?_, ih more tail⟩
        rcases List.mem_cons.mp ((placeRow_perm l row rest).mem_iff.mp mem) with rfl | mem
        · exact ⟨m, n, here, head, by omega⟩
        · exact first x mem

section Changes

variable {t t' : Table}

/-- A row that is taken in is put where its number belongs. -/
theorem Ordered.insertRow? (ordered : t.Ordered) {row : Row} (taken : t.insertRow? row = some t') :
    t'.Ordered := by
  obtain ⟨layout, perm, free⟩ := insertRow?_eq_some taken
  unfold Table.insertRow? at taken
  split at taken
  · rename_i fits
    cases taken
    simp only [Layout.isKeyed, Bool.and_eq_true, Bool.or_eq_true, Bool.not_eq_true'] at fits
    have keyed (numbered : t.layout.isNumbered = true) : ∃ n, row.head? = some (.integer n) := by
      rcases fits.1.2 with plain | number
      · rw [numbered] at plain
        cases plain
      · cases head : row.head? with
        | none => simp [head] at number
        | some c =>
            cases c with
            | integer n => exact ⟨n, rfl⟩
            | null | real | text | blob => simp [head, Cell.integer?] at number
    refine ⟨fun numbered other mem => ?_, fun numbered => ?_⟩
    · rcases List.mem_cons.mp (perm.mem_iff.mp mem) with rfl | mem
      · exact keyed numbered
      · exact ordered.numbers numbered other mem
    · obtain ⟨n, head⟩ := keyed numbered
      refine sorted_placeRow numbered head (fun other mem => ?_) (ordered.sorted numbered)
      obtain ⟨m, here⟩ := ordered.numbers numbered other mem
      refine ⟨m, here, ?_⟩
      rintro rfl
      refine free other mem ?_
      rw [keyOf_numbered numbered, keyOf_numbered numbered, head, here]
  · cases taken

theorem Ordered.of_sublist (ordered : t.Ordered) (layout : t'.layout = t.layout)
    (fewer : t'.rows.Sublist t.rows) : t'.Ordered where
  numbers numbered row mem := ordered.numbers (layout ▸ numbered) row (fewer.subset mem)
  sorted numbered := (ordered.sorted (layout ▸ numbered)).sublist fewer

theorem Regular.of_sublist (regular : t.Regular) (layout : t'.layout = t.layout)
    (fewer : t'.rows.Sublist t.rows) : t'.Regular where
  wide row mem := layout ▸ regular.wide row (fewer.subset mem)
  apart := layout ▸ regular.apart.sublist fewer

/-- A column that is set is one of the table. -/
theorem column_of_setAt? {column : String} {value key : Cell}
    (set : t.setAt? column value key = some t') :
    ∃ i, t.layout.position? column = some i ∧ ∃ c, t.layout.columns[i]? = some c := by
  simp only [Table.setAt?, Option.bind_eq_bind, Option.bind_eq_some_iff] at set
  obtain ⟨i, place, c, kind, -⟩ := set
  exact ⟨i, place, c, kind⟩

/-- The rows that change are taken in again one after the other, each where its number belongs. -/
theorem Ordered.setAt? (ordered : t.Ordered) {column : String} {value key : Cell}
    (set : t.setAt? column value key = some t') : t'.Ordered := by
  simp only [Table.setAt?, Option.bind_eq_bind, Option.bind_eq_some_iff] at set
  obtain ⟨i, -, c, -, changed⟩ := set
  have kept : Ordered { t with rows := t.rows.filter fun row => !t.isAt key row } :=
    ordered.of_sublist rfl List.filter_sublist
  revert changed kept
  generalize ({ t with rows := t.rows.filter fun row => !t.isAt key row } : Table) = u
  -- the rows that are changed are taken in one after the other
  induction (t.rowsAt key).map fun row =>
    row.set i (Cell.convert c.affinity value) generalizing u with
  | nil =>
      intro taken kept
      cases taken
      exact kept
  | cons row rest ih =>
      intro taken kept
      simp only [List.foldlM_cons, Option.bind_eq_bind, Option.bind_eq_some_iff, Option.pure_def,
        Option.some.injEq] at taken
      obtain ⟨_, ⟨next, took, rfl⟩, more⟩ := taken
      exact ih _ more ((kept.insertRow? took).of_sublist rfl (List.Sublist.refl _))

end Changes

end Table

namespace Database

/-! ### Databases in order -/

/-- A database in good order, all of whose tables have their rows in order. -/
structure Ordered (db : Database) : Prop extends db.Regular where
  ordered : ∀ name t, db.table? name = some t → t.Ordered

theorem Ordered.empty : Ordered .empty where
  toRegular := .empty
  ordered _ _ found := by cases found

section Statements

variable {db db' : Database} {name : String}

/-- A table in order may be put in the place of one that is laid out alike. -/
theorem Ordered.replace (ordered : db.Ordered) {t t' : Table} (found : db.table? name = some t)
    (layout : t'.layout = t.layout) (regular : t'.Regular) (sorted : t'.Ordered) :
    (db.setTable t').Ordered where
  toRegular := ordered.toRegular.replace found layout regular
  ordered other t'' there := by
    rw [table?_setTable] at there
    split at there
    · cases there
      exact sorted
    · exact ordered.ordered other t'' there

/-- A database of which each table is one of another database in order. -/
theorem Ordered.of_tables (ordered : db.Ordered)
    (tables : ∀ name t, db'.table? name = some t → db.table? name = some t) : db'.Ordered where
  toRegular := ordered.toRegular.of_tables tables
  ordered name t found := ordered.ordered name t (tables name t found)

theorem Ordered.define? (ordered : db.Ordered) {d : Definition}
    (planned : ∀ l, d = .table l → l ∈ plan) (done : db.define? d = some db') : db'.Ordered where
  toRegular := ordered.toRegular.define? done planned
  ordered other t there := by
    rcases define?_cases done with same | ⟨l, rfl, rfl⟩
    · exact ordered.ordered other t ((same other).symm.trans there)
    · rw [table?_setTable] at there
      split at there
      · cases there
        exact ⟨fun _ => List.forall_mem_nil _, fun _ => .nil⟩
      · exact ordered.ordered other t there

theorem Ordered.insert? (ordered : db.Ordered) {given : List (String × Cell)} {key : Cell}
    (done : db.insert? name given = some (db', key)) : db'.Ordered := by
  obtain ⟨t, row, t', found, made, taken, rfl⟩ := insert?_eq_some done
  exact ordered.replace found (Table.insertRow?_eq_some taken).1
    ((ordered.regular name t found).insertRow? taken (length_of_newRow? made))
    ((ordered.ordered name t found).insertRow? taken)

theorem Ordered.update? (ordered : db.Ordered) {column : String} {value key : Cell} {n : Nat}
    (done : db.update? name column value key = some (db', n)) : db'.Ordered := by
  obtain ⟨t, t', found, set, rfl⟩ := update?_eq_some done
  obtain ⟨i, place, c, kind⟩ := Table.column_of_setAt? set
  obtain ⟨layout, regular, -⟩ := (ordered.regular name t found).setAt? set place kind
  exact ordered.replace found layout regular ((ordered.ordered name t found).setAt? set)

/-- Rows that are removed, with all rows that refer to them, leave the others in order. -/
theorem Ordered.removeRows (ordered : db.Ordered) (depth : Nat) (name : String) (p : Row → Bool) :
    (db.removeRows depth name p).Ordered := by
  induction depth generalizing db name p with
  | zero => exact ordered
  | succ depth ih =>
      unfold Database.removeRows
      split
      · exact ordered
      · rename_i t found
        refine List.foldlRecOn _ _ ?_ fun db ordered child _ => ih ordered _ _
        exact ordered.replace found rfl
          ((ordered.regular name t found).of_sublist rfl List.filter_sublist)
          ((ordered.ordered name t found).of_sublist rfl List.filter_sublist)

theorem Ordered.delete? (ordered : db.Ordered) {key : Cell} {n : Nat}
    (done : db.delete? name key = some (db', n)) : db'.Ordered := by
  simp only [Database.delete?, Option.bind_eq_bind, Option.bind_eq_some_iff] at done
  obtain ⟨t, -, done⟩ := done
  split at done
  · cases done
    exact ordered.removeRows _ _ _
  · cases done

/-- Rows that go with a table leave the others in order. -/
theorem Ordered.drop? (ordered : db.Ordered) (done : db.drop? name = some db') : db'.Ordered := by
  simp only [Database.drop?, Option.bind_eq_bind, Option.bind_eq_some_iff] at done
  obtain ⟨t, -, done⟩ := done
  split at done
  · cases done
    refine (ordered.removeRows (db.tables.size + 1) name fun _ =>
        true).of_tables fun other t' there => ?_
    have there : ((db.removeRows (db.tables.size + 1) name fun _ => true).tables.erase name).get?
      other =
        some t' := there
    rw [Keyed.get?_erase] at there
    split at there
    · cases there
    · exact there
  · cases done

end Statements

/-! ### What statements make -/

/-- What statements make of an empty database. -/
inductive Made : Database → Prop where
  | empty : Made .empty
  | define {db db' : Database} {d : Definition} (made : Made db)
      (planned : ∀ l, d = .table l → l ∈ plan) (done : db.define? d = some db') : Made db'
  | insert {db db' : Database} {name : String} {given : List (String × Cell)} {key : Cell}
      (made : Made db) (done : db.insert? name given = some (db', key)) : Made db'
  | update {db db' : Database} {name column : String} {value key : Cell} {n : Nat} (made : Made db)
      (done : db.update? name column value key = some (db', n)) : Made db'
  | delete {db db' : Database} {name : String} {key : Cell} {n : Nat} (made : Made db)
      (done : db.delete? name key = some (db', n)) : Made db'
  | drop {db db' : Database} {name : String} (made : Made db) (done : db.drop? name = some db') :
      Made db'
  | lose {db : Database} (made : Made db) : Made db.lose

/-- Whatever statements make is in order. -/
theorem Made.ordered {db : Database} (made : Made db) : db.Ordered := by
  induction made with
  | empty => exact .empty
  | define _ planned done ih => exact ih.define? planned done
  | insert _ done ih => exact ih.insert? done
  | update _ done ih => exact ih.update? done
  | delete _ done ih => exact ih.delete? done
  | drop _ done ih => exact ih.drop? done
  | lose _ ih => exact ih.of_tables fun _ _ found => found

section Steps

variable {db db' : Database}

/-- The steps towards the tables are statements. -/
theorem Made.keptBySteps : KeptBySteps Made where
  define := .define
  insert := .insert

/-- To commit an event is to make statements, or nothing if it fails. -/
theorem Made.commit (made : Made db) (g : Gateway) (e : Event) (first second : Attempt) :
    Made (g.commit e first second db).2.2 := by
  rcases done : g.commit e first second db with ⟨answer, g', db'⟩
  rcases Gateway.commit_cases done with ⟨-, -, rfl⟩ | ⟨-, ⟨f, -, rfl⟩ | ⟨-, stored⟩⟩
  · exact made
  · exact made
  · rcases stored with ⟨v, b, -, stored⟩ | ⟨s, b, -, stored⟩
    · obtain ⟨n, update⟩ := storeVersion_eq_some stored
      exact made.update update
    · obtain ⟨_, key, _, key', n, event, detail, update⟩ := storeStatus_eq_some stored
      exact ((made.insert event).insert detail).update update

end Steps

end Database

end Vigil.Store
