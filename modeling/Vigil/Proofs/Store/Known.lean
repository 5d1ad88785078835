import Vigil.Proofs.Store.Regular

/-!
What the datastore knows of services, their status and their version, and how a commit changes it.
Main definition: `Store.Database.known?`. Main statements: `Store.Gateway.commit_cases`, all that a
commit may do; `Store.Gateway.takenDown_of_commit`, a commit that succeeds writes what its event
tells and nothing else.
-/

namespace Vigil

open Store

/-- What the datastore keeps of a service for the next start. -/
inductive Store.Mark where
  | up
  | version
deriving DecidableEq, Repr

def Store.Mark.column : Mark → String
  | .up => "up"
  | .version => "version"

/-- What an event tells of a service. -/
def Event.tells (e : Event) (m : Mark) (id : Int) : Option Cell :=
  if e.service = id then
    match m, e.change with
    | .up, .state s => some (.text s.flag)
    | .version, .version v => some (.text v)
    | _, _ => none
  else none

/-- An event tells nothing of other services. -/
theorem Event.tells_of_ne {e : Event} {id : Int} (other : e.service ≠ id) (m : Mark) :
    e.tells m id = none := if_neg other

def Event.given (e : Event) : List (String × Cell) := [
  ("source", .text e.source), ("target", .text e.target), ("deviceid", optionalNumber e.device),
  ("netboxid", .integer e.netbox), ("subid", .integer e.service), ("time", .text e.time.columnText),
  ("eventtypeid", .text e.typeName), ("state", .text e.code), ("value", .integer e.value)]

/-- What an event gives for its detail, under the key of its row. -/
def Event.detailGiven (e : Event) (key : Cell) : List (String × Cell) :=
  [("eventqid", key), ("var", .text "descr"), ("val", .text e.info)]

namespace Store

namespace Database

/-- What is known of a service, if there is a row of it. -/
def known? (db : Database) (m : Mark) (id : Int) : Option Cell :=
  (db.table? serviceLayout.name).bind fun t => t.cell? m.column (.integer id)

/-- A row of services is at one number only. -/
theorem isAt_service {t : Table} (layout : t.layout = serviceLayout) {id id' : Int} (ne : id' ≠ id)
    (row : Row) (here : t.isAt (.integer id') row = true) : t.isAt (.integer id) row = false := by
  cases row with
  | nil => simp [Table.isAt, layout, serviceLayout] at here
  | cons v rest =>
      simp only [Table.isAt, layout, serviceLayout, numberColumn, List.head?_cons, Cell.convert,
        Bool.and_eq_true, beq_iff_eq] at here ⊢
      simp [here.1, ne]

/-- An update of a service changes one column of it. -/
theorem Regular.known?_update? {db db' : Database} (regular : db.Regular) {m : Mark} {s : String}
    {id : Int} {n : Nat}
    (done : db.update? serviceLayout.name m.column (.text s) (.integer id) = some (db', n)) :
    db'.Regular ∧ ∀ m' id', db'.known? m' id' =
      (db.known? m' id').map fun old => if m = m' ∧ id = id' then .text s else old := by
  obtain ⟨t, t', found, set, rfl⟩ := update?_eq_some done
  have layout := regular.planned serviceLayout (by simp [plan]) t found
  have good := regular.regular _ t found
  have numbered : t.layout.isNumbered = true := by rw [layout]; rfl
  obtain ⟨i, later, place, kind⟩ : ∃ i, 0 < i ∧ t.layout.position? m.column = some i ∧
      ∃ required standard, t.layout.columns[i]? = some (textColumn m.column required standard) := by
    rw [layout]
    cases m with
    | up => exact ⟨5, by decide, by decide, true, _, rfl⟩
    | version => exact ⟨4, by decide, by decide, false, _, rfl⟩
  obtain ⟨required, standard, kind⟩ := kind
  obtain ⟨layout', good', -⟩ := good.setAt? set place kind
  refine ⟨regular.replace found layout' good', fun m' id' => ?_⟩
  have here : t'.layout.name = serviceLayout.name := by rw [layout', layout]
  simp only [known?, table?_setTable, here, if_true, found, Option.bind_some]
  by_cases same : m = m' ∧ id = id'
  · obtain ⟨rfl, rfl⟩ := same
    simpa [textColumn, Cell.convert] using good.cell?_setAt?_self numbered set place kind later
  · rw [good.cell?_setAt?_of_ne numbered set place kind later]
    · simp [same]
    · by_cases h : m = m'
      · exact .inr (isAt_service layout fun eq => same ⟨h, eq.symm⟩)
      · refine .inl ?_
        revert h
        cases m' <;> cases m <;> decide

end Database

/-! ### What is stored of an event -/

/-- To store a version is one update. -/
theorem storeVersion_eq_some {e : Event} {v : String} {b : Breaks} {db db' : Database}
    (done : storeVersion e v b db = some db') :
    ∃ n, db.update? serviceLayout.name "version" (.text v) (.integer e.service) =
    some (db', n) := by
  obtain ⟨⟨_, n⟩, held, rfl⟩ := Option.map_eq_some_iff.mp done
  exact ⟨n, Database.part_eq_some held⟩

/-- To store a status is to insert the event, to insert its detail, and to update the service. -/
theorem storeStatus_eq_some {e : Event} {status : Status} {b : Breaks} {db db' : Database}
    (done : storeStatus e status b db = some db') :
    ∃ db₁ key db₂ key' n, db.insert? eventLayout.name e.given = some (db₁, key) ∧
      db₁.insert? eventDetailLayout.name (e.detailGiven key) = some (db₂, key') ∧
      db₂.update? serviceLayout.name "up" (.text status.flag) (.integer e.service) =
        some (db', n) := by
  simp only [storeStatus, Option.bind_eq_bind, Option.bind_eq_some_iff] at done
  obtain ⟨-, -, ⟨db₁, key⟩, event, ⟨db₂, key'⟩, detail, ⟨db₃, n⟩, update, last⟩ := done
  cases Database.part_eq_some last
  exact ⟨db₁, key, db₂, key', n, Database.part_eq_some event, Database.part_eq_some detail,
    Database.part_eq_some update⟩

/-- What an event tells has been written, and nothing else of services has changed. -/
structure TakenDown (e : Event) (db db' : Database) : Prop where
  regular : db'.Regular
  known : ∀ m id, db'.known? m id = (db.known? m id).map (e.tells m id).getD

theorem takenDown_of_storeVersion {e : Event} {v : String} {b : Breaks} {db db' : Database}
    (regular : db.Regular) (change : e.change = .version v)
    (done : storeVersion e v b db = some db') : TakenDown e db db' := by
  obtain ⟨n, update⟩ := storeVersion_eq_some done
  obtain ⟨regular', known⟩ := regular.known?_update? (m := .version) update
  refine ⟨regular', fun m id => (known m id).trans
    (congrArg (Option.map · _) (funext fun old => ?_))⟩
  cases m <;> by_cases h : e.service = id <;> simp [Event.tells, change, h]

/-- An insertion of an event leaves what is known of services as it is. -/
theorem Database.Regular.known?_insert? {db db' : Database} (regular : db.Regular) {name : String}
    {given : List (String × Cell)} {key : Cell} (done : db.insert? name given = some (db', key))
    (ne : serviceLayout.name ≠ name) (m : Mark) (id : Int) : db'.known? m id = db.known? m id := by
  rw [known?, known?, regular.table?_insert? done ne]

/-- If a status can be stored, it is what the datastore knows from then on, and all else that it
knows is as before. -/
theorem takenDown_of_storeStatus {e : Event} {status : Status} {b : Breaks} {db db' : Database}
    (regular : db.Regular) (change : e.change = .state status)
    (done : storeStatus e status b db = some db') : TakenDown e db db' := by
  obtain ⟨db₁, key, db₂, key', n, event, detail, update⟩ := storeStatus_eq_some done
  have regular₁ := regular.insert? event
  have regular₂ := regular₁.insert? detail
  obtain ⟨regular', known⟩ := regular₂.known?_update? (m := .up) update
  refine ⟨regular', fun m id => ?_⟩
  rw [known, regular₁.known?_insert? detail (by decide), regular.known?_insert? event (by decide)]
  refine congrArg (Option.map · _) (funext fun old => ?_)
  cases m <;> by_cases h : e.service = id <;> simp [Event.tells, change, h]

namespace Gateway

/-- A statement that succeeds has taken effect in one of its two attempts. -/
theorem statement_of_run {α : Type} {g : Gateway} {context : String}
    {statement : Breaks → Database → Option α} {first second : Attempt} {db : Database} {x : α}
    (done : (g.run context statement first second db).1 = .ok x) :
    ∃ b, statement b db = some x := by
  have attempt_ok {g : Gateway} {a : Attempt} {answer : Option α}
      (made : g.attempt statement a db = .ok answer) : statement a.breaks db = answer := by
    unfold attempt at made
    split at made
    · cases made
      rfl
    · cases made
  unfold run at done
  split at done
  · cases done
  · rename_i made
    cases done
    exact ⟨_, attempt_ok made⟩
  · simp only at done
    split at done
    · cases done
    · rename_i made
      cases done
      exact ⟨_, attempt_ok made⟩
    · cases done

section Commit

variable {g g' : Gateway} {e : Event} {first second : Attempt} {db db' : Database}

/-- All that a commit may do: it passes over an event from elsewhere, it fails and changes nothing,
or it stores the event by one of its attempts. -/
theorem commit_cases {answer : Except StoreFailure Unit}
    (done : g.commit e first second db = (answer, g', db')) :
    (e.source ∉ Event.acceptedSources ∧ answer = .ok () ∧ db' = db) ∨
      e.source ∈ Event.acceptedSources ∧
        ((∃ f, answer = .error f ∧ db' = db) ∨
          answer = .ok () ∧
            ((∃ v b, e.change = .version v ∧ storeVersion e v b db = some db') ∨
              ∃ s b, e.change = .state s ∧ storeStatus e s b db = some db')) := by
  unfold commit at done
  split at done
  · rename_i foreign
    cases done
    exact .inl ⟨by simpa using foreign, rfl, rfl⟩
  · rename_i own
    refine .inr ⟨by simpa using own, ?_⟩
    dsimp only at done
    split at done
    · rename_i answer
      cases done
      refine .inr ⟨rfl, ?_⟩
      cases change : e.change with
      | version v =>
          rw [change] at answer
          obtain ⟨b, stored⟩ := statement_of_run answer
          exact .inl ⟨v, b, rfl, stored⟩
      | state s =>
          rw [change] at answer
          obtain ⟨b, stored⟩ := statement_of_run answer
          exact .inr ⟨s, b, rfl, stored⟩
    · rename_i f _
      cases done
      exact .inl ⟨f, rfl, rfl⟩

/-- A commit that succeeds has taken down its event. -/
theorem takenDown_of_commit (regular : db.Regular) (own : e.source ∈ Event.acceptedSources)
    (done : g.commit e first second db = (.ok (), g', db')) : TakenDown e db db' := by
  rcases commit_cases done with ⟨foreign, -⟩ | ⟨-, ⟨f, failed, -⟩ | ⟨-, stored⟩⟩
  · exact absurd own foreign
  · cases failed
  · rcases stored with ⟨v, b, change, stored⟩ | ⟨s, b, change, stored⟩
    · exact takenDown_of_storeVersion regular change stored
    · exact takenDown_of_storeStatus regular change stored

/-- An event from elsewhere is passed over. -/
theorem eq_of_commit_foreign {answer : Except StoreFailure Unit}
    (foreign : e.source ∉ Event.acceptedSources)
    (done : g.commit e first second db = (answer, g', db')) : db' = db := by
  rcases commit_cases done with ⟨-, -, same⟩ | ⟨own, -⟩
  · exact same
  · exact absurd own foreign

/-- A commit that fails changes nothing. -/
theorem eq_of_commit_error {f : StoreFailure}
    (failed : g.commit e first second db = (.error f, g', db')) :
    db' = db := by
  rcases commit_cases failed with ⟨-, come, -⟩ | ⟨-, ⟨_, -, same⟩ | ⟨come, -⟩⟩
  · cases come
  · exact same
  · cases come

end Commit

end Gateway

end Store

end Vigil
