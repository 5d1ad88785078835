import Vigil.Proofs.Store.Known
import Vigil.Proofs.Writer.Order

/-!
A writer at work on a datastore, in which nobody else writes what is known of a service.

Main definition: `Writer.Delivery`, a run with the datastore beside it. Main statements:
`Writer.Delivery.known`, the datastore always knows what the last event that has been stored tells;
and `Writer.delivered_in_turn`, that is what the last event tells that has been accepted, if the
events of the service have kept their turns.
-/

namespace Vigil.Writer

open Store

/-! ### Commits that end -/

/-- In a step, one commit ends at most. -/
theorem turn_ends {w next : Writer} {now : Nat} {c : Commit} {acts : List Act}
    (turn : Turn w now c next acts) :
    let m : Moment := ⟨now, w, [], acts, next⟩
    m.stored = [] ∧ m.refused = [] ∨ (∃ e, m.stored = [e] ∧ m.refused = []) ∨
      ∃ e, m.stored = [] ∧ m.refused = [e] := by
  intro m
  simp only [m, Moment.stored, Moment.refused]
  cases turn with
  | store | storeLast => exact .inr (.inl ⟨_, rfl, rfl⟩)
  | putBack | spill | giveUpLast | goDown => exact .inr (.inr ⟨_, rfl, rfl⟩)
  | beginComing | beginLast | cutShort | wake | finish => exact .inl (by simp)
  | settleDown | beginFirst | turnToEnd => exact .inl (by simp [List.filterMap_cons])

theorem enact_ends {w : Writer} {now : Nat} {d : Deed} {m : Moment}
    (done : w.enact now d = some m) :
    m.stored = [] ∧ m.refused = [] ∨ (∃ e, m.stored = [e] ∧ m.refused = []) ∨
      ∃ e, m.stored = [] ∧ m.refused = [e] := by
  rcases enact_cases done with ⟨c, next, acts, turn, rfl⟩ | ⟨accepted, next, -, rfl⟩
  · exact turn_ends turn
  · exact .inl ⟨rfl, rfl⟩

/-- What a deed does to the datastore. An event is stored if its commit has succeeded, and fails if
its commit has failed. A commit that the writer does not see to its end may still take effect. -/
inductive Answered (g : Gateway) (db : Database) (m : Moment) : Gateway → Database → Prop where
  | quiet (stored : m.stored = []) (refused : m.refused = []) : Answered g db m g db
  | stored {e : Event} {first second : Attempt} {g' : Gateway} {db' : Database}
      (act : m.stored = [e])
      (commit : g.commit e first second db = (.ok (), g', db')) : Answered g db m g' db'
  | refused {e : Event} {first second : Attempt} {f : StoreFailure} {g' : Gateway} {db' : Database}
      (act : m.refused = [e]) (commit : g.commit e first second db = (.error f, g', db')) :
      Answered g db m g' db'
  | lost {e : Event} {first second : Attempt} {answer : Except StoreFailure Unit} {g' : Gateway}
      {db' : Database} (act : m.lost = [e])
      (commit : g.commit e first second db = (answer, g', db')) : Answered g db m g' db'

/-- A run of a writer with the datastore beside it, where others keep what is known of a service. -/
inductive Delivery (p : Policy) (id : Int) (first : Database) :
    History → Writer → Gateway → Database → Prop where
  | start (g : Gateway) : Delivery p id first [] (.ofPolicy p) g first
  | others {past : History} {w : Writer} {g : Gateway} {db : Database} (g' : Gateway)
      {db' : Database}
      (delivery : Delivery p id first past w g db) (regular : db'.Regular)
      (kept : ∀ m c, db.known? m id = some c → db'.known? m id = some c) :
      Delivery p id first past w g' db'
  | step {past : History} {w : Writer} {g g' : Gateway} {db db' : Database} {now : Nat} {d : Deed}
      {m : Moment} (delivery : Delivery p id first past w g db) (later : ∀ m' ∈ past, m'.now ≤ now)
      (done : w.enact now d = some m) (answered : Answered g db m g' db') :
      Delivery p id first (past ++ [m]) m.after g' db'

variable {p : Policy} {id : Int} {first : Database} {past : History} {w : Writer} {g : Gateway}
  {db : Database}

theorem Delivery.run (delivery : Delivery p id first past w g db) : Run p past w := by
  induction delivery with
  | start => exact .start
  | others _ _ _ _ ih => exact ih
  | step _ later done _ ih => exact ih.step later done

/-! ### What is known -/

/-- What some events tell of a service in the end, if it was known to be `old`. -/
def lastTold (m : Mark) (id : Int) (old : Cell) (events : List Event) : Cell :=
  (events.filterMap (·.tells m id)).getLast?.getD old

theorem lastTold_append (m : Mark) (id : Int) (old : Cell) (events : List Event) (e : Event) :
    lastTold m id old (events ++ [e]) = (e.tells m id).getD (lastTold m id old events) := by
  cases h : e.tells m id <;> simp [lastTold, List.filterMap_append, h]

/-- What is told later counts more. -/
theorem lastTold_of_append (m : Mark) (id : Int) (old : Cell) (events more : List Event) :
    lastTold m id old (events ++ more) = lastTold m id (lastTold m id old events) more := by
  simp only [lastTold, List.filterMap_append, List.getLast?_append]
  cases (more.filterMap (·.tells m id)).getLast? <;> rfl

/-- Only what tells of the service counts. -/
theorem lastTold_filter (m : Mark) (id : Int) (old : Cell) (events : List Event) :
    lastTold m id old (events.filter fun e => (e.tells m id).isSome) =
    lastTold m id old events := by
  rw [lastTold, List.filterMap_filter]
  congr 3
  funext e
  cases e.tells m id <;> rfl

/-- The datastore knows what the last stored event tells. -/
theorem Delivery.known (delivery : Delivery p id first past w g db) (regular : first.Regular)
    (own : ∀ e ∈ past.stored, e.service = id → e.source ∈ Event.acceptedSources)
    (unlost : past.lost = []) :
    db.Regular ∧ ∀ m old, first.known? m id = some old →
      db.known? m id = some (lastTold m id old past.stored) := by
  induction delivery with
  | start => exact ⟨regular, fun m old here => here⟩
  | others _ _ regular' kept ih =>
      obtain ⟨-, known⟩ := ih own unlost
      exact ⟨regular', fun m old here => kept m _ (known m old here)⟩
  | step _ _ done answered ih =>
      rw [History.lost_append, List.append_eq_nil_iff] at unlost
      simp only [History.stored_append, List.mem_append] at own ⊢
      obtain ⟨good, known⟩ := ih (fun e mem => own e (.inl mem)) unlost.1
      cases answered with
      | quiet stored => exact ⟨good, by simpa [stored] using known⟩
      | @stored e _ _ _ _ act commit =>
          rw [act]
          by_cases accepted : e.source ∈ Event.acceptedSources
          · have taken := Gateway.takenDown_of_commit good accepted commit
            refine ⟨taken.regular, fun m old here => ?_⟩
            rw [taken.known, known m old here, lastTold_append]
            rfl
          · rw [Gateway.eq_of_commit_foreign accepted commit]
            refine ⟨good, fun m old here => ?_⟩
            have elsewhere : e.service ≠ id :=
              fun here => accepted (own e (.inr (by simp [act])) here)
            rw [known m old here, lastTold_append, Event.tells_of_ne elsewhere]
            rfl
      | refused act commit =>
          rw [Gateway.eq_of_commit_error commit]
          rcases enact_ends done with ⟨_, none⟩ | ⟨e, _, none⟩ | ⟨e, none, _⟩
          · simp [none] at act
          · simp [none] at act
          · exact ⟨good, by simpa [none] using known⟩
      | lost act => simp [unlost.2] at act

/-! ### Deliveries on schedule -/

/-- What a deed does to the datastore if a commit that ends in it meets with two attempts. -/
def answer? (g : Gateway) (db : Database) (m : Moment) (first second : Attempt) :
    Option (Gateway × Database) :=
  match m.stored, m.refused with
  | [], [] => some (g, db)
  | [e], [] =>
    match g.commit e first second db with
    | (.ok (), g, db) => some (g, db)
    | _ => none
  | [], [e] =>
    match g.commit e first second db with
    | (.error _, g, db) => some (g, db)
    | _ => none
  | _, _ => none

/-- What is played out with the datastore is one of the ways in which it answers. -/
theorem answered_of_answer? {m : Moment} {first second : Attempt} {g' : Gateway} {db' : Database}
    (answer : answer? g db m first second = some (g', db')) : Answered g db m g' db' := by
  unfold answer? at answer
  split at answer
  · rename_i stored refused
    cases answer
    exact .quiet stored refused
  · rename_i stored _
    split at answer
    · rename_i commit
      cases answer
      exact .stored stored commit
    · cases answer
  · rename_i _ refused
    split at answer
    · rename_i commit
      cases answer
      exact .refused refused commit
    · cases answer
  · cases answer

/-- A deed at a time, and the attempts that a commit meets with if it ends in it. -/
abbrev Task := Nat × Deed × Attempt × Attempt

def deliver? (w : Writer) (g : Gateway) (db : Database) :
    List Task → Option (History × Writer × Gateway × Database)
  | [] => some ([], w, g, db)
  | (now, d, first, second) :: rest => do
    let m ← w.enact now d
    let (g, db) ← answer? g db m first second
    let (past, w, g, db) ← deliver? m.after g db rest
    return (m :: past, w, g, db)

/-- What a schedule comes to is a delivery, if its times do not decrease. -/
theorem delivery_of_deliver? (p : Policy) (id : Int) {schedule : List Task} {g₀ : Gateway}
    (ordered : schedule.Pairwise fun a b => a.1 ≤ b.1)
    (done : deliver? (.ofPolicy p) g₀ first schedule = some (past, w, g, db)) :
    Delivery p id first past w g db := by
  suffices extend : ∀ (before : History) (w₀ : Writer) (g₀ : Gateway) (db₀ : Database),
      Delivery p id first before w₀ g₀ db₀ → (∀ m ∈ before, ∀ a ∈ schedule, m.now ≤ a.1) →
      deliver? w₀ g₀ db₀ schedule = some (past, w, g, db) →
      Delivery p id first (before ++ past) w g db by
    simpa using extend [] _ g₀ first (.start g₀) (by simp) done
  clear done
  induction schedule generalizing past with
  | nil =>
      intro before w₀ g₀ db₀ delivery _ done
      cases done
      simpa using delivery
  | cons a rest ih =>
      intro before w₀ g₀ db₀ delivery earlier done
      obtain ⟨now, d, one, two⟩ := a
      obtain ⟨later, ordered⟩ := List.pairwise_cons.mp ordered
      simp only [deliver?, Option.bind_eq_bind, Option.bind_eq_some_iff, Option.pure_def,
        Option.some.injEq, Prod.mk.injEq] at done
      obtain ⟨m, enacted, ⟨g₁, db₁⟩, answer, ⟨tail, _, _, _⟩, more, rfl, rfl, rfl, rfl⟩ := done
      have step := Delivery.step delivery (fun m' h => earlier m' h _ List.mem_cons_self) enacted
        (answered_of_answer? answer)
      rw [List.append_cons]
      exact ih ordered (before ++ [m]) m.after g₁ db₁ step
        (earlier_append earlier (now_of_enact enacted) later) more

/-- Where a schedule comes to something of a kind, there is a delivery that does. -/
theorem exists_delivery (p : Policy) (id : Int) (first : Database) (g₀ : Gateway)
    (schedule : List Task) (ordered : schedule.Pairwise fun a b => a.1 ≤ b.1)
    (q : History → Writer → Database → Prop) [∀ past w db, Decidable (q past w db)]
    (happens : (deliver? (.ofPolicy p) g₀ first schedule).any
      (fun r => q r.1 r.2.1 r.2.2.2) = true) :
    ∃ past w g db, Delivery p id first past w g db ∧ q past w db := by
  obtain ⟨⟨past, w, g, db⟩, done, check⟩ := (Option.any_eq_true _ _).mp happens
  exact ⟨past, w, g, db, delivery_of_deliver? p id ordered done, of_decide_eq_true check⟩

/-! ### Delivery in turn -/

/-- If no event is dropped or lost, the datastore knows what the last stored event tells, and in the
end all accepted events have been stored. Those that tell of a service are stored in the order in
which they were accepted, and in the end the last of them is known, if none of them failed while
another waited. -/
theorem delivered_in_turn (delivery : Delivery p id first past w g db) (regular : first.Regular)
    (own : ∀ e ∈ past.accepted, e.service = id → e.source ∈ Event.acceptedSources)
    (undropped : past.dropped = []) (unlost : past.lost = []) :
    (w.holdings = [] → past.accepted.Perm past.stored) ∧
      (∀ m old, first.known? m id = some old →
        db.known? m id = some (lastTold m id old past.stored)) ∧
      ∀ m, (∀ t ∈ past, t.KeepsTurns fun e => (e.tells m id).isSome) →
        past.accepted.filter (fun e => (e.tells m id).isSome) =
          (past.stored ++ w.holdings).filter (fun e => (e.tells m id).isSome) ∧
        (w.holdings = [] → ∀ old, first.known? m id = some old →
          db.known? m id = some (lastTold m id old past.accepted)) := by
  have conserved : past.accepted.Perm (past.stored ++ w.holdings) := by
    simpa [undropped, unlost] using delivery.run.conserved
  have known := (delivery.known regular
    (fun e mem => own e (conserved.mem_iff.mpr (List.mem_append_left _ mem))) unlost).2
  refine ⟨fun done => by simpa [done] using conserved, known, fun m turns => ?_⟩
  have order := delivery.run.in_order undropped unlost turns
  refine ⟨order, fun done old here => ?_⟩
  rw [known m old here, ← lastTold_filter, ← lastTold_filter m id old past.accepted, order, done,
    List.append_nil]

/-! ### One service -/

def oneService? : Option Database := do
  let db := (Database.empty.migrate (fun _ => .none) 0 migrations).1
  let (db, _) ← db.insert? netboxLayout.name
    [("netboxid", .integer 1), ("ip", .text "192.0.2.1"), ("sysname", .text "node")]
  let (db, _) ← db.insert? serviceLayout.name
    [("serviceid", .integer 1), ("netboxid", .integer 1), ("handler", .text "http")]
  return db

def oneService : Database := oneService?.getD .empty

theorem oneService_regular : oneService.Regular := by
  unfold oneService
  cases made : oneService? with
  | none => exact .empty
  | some db =>
      simp only [oneService?, Option.bind_eq_bind, Option.bind_eq_some_iff, Option.pure_def] at made
      obtain ⟨⟨_, _⟩, node, ⟨_, _⟩, service, ⟨⟩⟩ := made
      exact (Database.Regular.empty.migrate.insert? node).insert? service

def statusEvent (s : Status) : Event := { (default : Event) with
  source := Event.ownSource
  service := 1
  change := .state s }

/-- The connection breaks, and there is no other one. -/
def broken : Attempt := ⟨false, fun _ => true⟩

def patient : Policy := ⟨.ofSecs 5, .ofSecs 5, none⟩

def connected : Gateway := ⟨"", true, [], true⟩

def twoStored : List Task :=
  [(5000, .proceed default true, .sound, .sound),
    (5000, .proceed ⟨0, .stored⟩ true, .sound, .sound),
    (5000, .proceed default true, .sound, .sound),
    (5000, .proceed ⟨0, .stored⟩ true, .sound, .sound),
    (5000, .proceed default true, .sound, .sound)]

/-- The start of an outage fails to be stored, and its end is told only afterwards. -/
def outageInTurn : List Task :=
  [(0, .start, .sound, .sound), (0, .send (statusEvent .down), .sound, .sound),
    (0, .proceed ⟨0, .refused⟩ true, .sound, .sound), (0, .proceed default true, broken, broken),
    (0, .send (statusEvent .up), .sound, .sound)] ++ twoStored

theorem outageInTurn_delivered :
    ∃ past w g db, Delivery patient 1 oneService past w g db ∧ past.dropped = [] ∧ past.lost = [] ∧
      (∃ m ∈ past, m.refused = [statusEvent .down]) ∧ past.accepted.Perm past.stored ∧
      past.stored = [statusEvent .down, statusEvent .up] ∧
      db.known? .up 1 = some (.text Status.up.flag) := by
  obtain ⟨past, w, g, db, delivery, undropped, unlost, failure, empty, stored, accepted, turns⟩ :=
    exists_delivery patient 1 oneService connected outageInTurn (by decide)
      (fun past w _ => past.dropped = [] ∧ past.lost = [] ∧
        (∃ m ∈ past, m.refused = [statusEvent .down]) ∧ w.holdings = [] ∧
        past.stored = [statusEvent .down, statusEvent .up] ∧
        past.accepted = [statusEvent .down, statusEvent .up] ∧
        ∀ m ∈ past, m.KeepsTurns fun e => (e.tells .up 1).isSome)
      (by decide +kernel)
  obtain ⟨all, -, inTurn⟩ := delivered_in_turn delivery oneService_regular
    (by rw [accepted]; decide) undropped unlost
  have known := (inTurn .up turns).2 empty (.text "y") (by decide +kernel)
  rw [accepted] at known
  exact ⟨past, w, g, db, delivery, undropped, unlost, failure, all empty, stored, known⟩

/-- The start of an outage fails to be stored while its end waits. -/
def overtakenOutage : List Task :=
  [(0, .start, .sound, .sound), (0, .send (statusEvent .down), .sound, .sound),
    (0, .send (statusEvent .up), .sound, .sound), (0, .proceed ⟨0, .refused⟩ true, .sound, .sound),
    (0, .proceed default true, broken, broken)] ++ twoStored

/-- An event that is put behind a later one of its service is stored after it, and is what is known
in the end. -/
theorem overtaken_event_is_known :
    ∃ past w g db, Delivery patient 1 oneService past w g db ∧ past.dropped = [] ∧ past.lost = [] ∧
      w.holdings = [] ∧ past.accepted = [statusEvent .down, statusEvent .up] ∧
      past.stored = [statusEvent .up, statusEvent .down] ∧
      db.known? .up 1 = some (.text Status.down.flag) :=
  exists_delivery patient 1 oneService connected overtakenOutage (by decide)
    (fun past w db => past.dropped = [] ∧ past.lost = [] ∧ w.holdings = [] ∧
      past.accepted = [statusEvent .down, statusEvent .up] ∧
      past.stored = [statusEvent .up, statusEvent .down] ∧
      db.known? .up 1 = some (.text Status.down.flag))
    (by decide +kernel)

end Vigil.Writer
