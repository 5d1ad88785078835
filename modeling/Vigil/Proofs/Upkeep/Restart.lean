import Mathlib.Data.List.Infix
import Vigil.Proofs.Upkeep.Arrival
import Vigil.Proofs.Upkeep.Outage

/-!
What the program finds in the datastore when it starts again.

Only changes are told and stored: a service that comes into the roster while its status is taken for
unknown, and is up from then on, is never told of, and the datastore keeps what it has known before.
And what is told of a service may come from a check that has begun while the service was in the
roster at an earlier time, with a live state of its own, and be stored after the service has come in
again. Main statement: `Upkeep.restart_seeds_iff`, in all other cases a service starts again with
its live status and version.
-/

namespace Vigil.Upkeep

open Vigil.Clock Vigil.Store
open Vigil.Roster (Report Reported)

variable {build : Service → Option Checker} {id : Int}

/-! ### What is told last -/

/-- What some events of a service tell of it last, if a property of the events says what each one
tells. -/
theorem lastTold_eq {m : Mark} {α : Type} {told? : Event → Option α} {cell : α → Cell}
    (tells : ∀ e : Event, e.service = id → e.tells m id = (told? e).map cell) {events : List Event}
    (all : ∀ e ∈ events, e.service = id) (old : Cell) :
    Writer.lastTold m id old events = (((events.filterMap told?).getLast?).map cell).getD old := by
  have same : events.filterMap (·.tells m id) = (events.filterMap told?).map cell := by
    rw [List.map_filterMap]
    exact List.filterMap_congr fun e mem => tells e (all e mem)
  rw [Writer.lastTold, same, List.getLast?_map]

theorem lastTold_up {events : List Event} (all : ∀ e ∈ events, e.service = id) (old : Cell) :
    Writer.lastTold .up id old events =
      (((events.filterMap Event.status?).getLast?).map fun s => Cell.text s.flag).getD old := by
  refine lastTold_eq (fun e here => ?_) all old
  simp only [Event.tells, Event.status?, here, if_true]
  cases e.change <;> rfl

theorem lastTold_version {events : List Event} (all : ∀ e ∈ events, e.service = id) (old : Cell) :
    Writer.lastTold .version id old events =
      (((events.filterMap Event.version?).getLast?).map Cell.text).getD old := by
  refine lastTold_eq (fun e here => ?_) all old
  simp only [Event.tells, Event.version?, here, if_true]
  cases e.change <;> rfl

/-- The last that some deeds tell of a service, of what is looked for in its events, is told on
another live state than a given one. -/
def ToldAside {α : Type} (tells? : Event → Option α) (id : Int) (cell : Nat) (past : List Moment)
    (a : α) : Prop :=
  ∃ earlier m later, past = earlier ++ m :: later ∧ ¬ m.deed.IsOn cell id ∧
    (m.told.filterMap tells?).getLast? = some a ∧ (toldOf id later).filterMap tells? = []

/-- What some deeds tell of a service last is told on a live state or aside of it. -/
theorem last_told_cases {α : Type} (tells? : Event → Option α) {cell : Nat} {past : List Moment}
    (one : ∀ m ∈ past, m.deed.IsOf cell id) :
    ((toldOf id past).filterMap tells?).getLast? =
        ((past.flatMap (·.toldOn cell)).filterMap tells?).getLast? ∨
      ∃ a, ToldAside tells? id cell past a ∧
        ((toldOf id past).filterMap tells?).getLast? = some a := by
  induction past using List.reverseRecOn with
  | nil => exact .inl rfl
  | append_singleton past m ih =>
      rw [List.forall_mem_append, List.forall_mem_singleton] at one
      have last : toldOf id [m] = m.told.filter fun e => e.service = id :=
        List.flatMap_singleton _ _
      have own : [m].flatMap (·.toldOn cell) = m.toldOn cell := List.flatMap_singleton _ _
      rw [toldOf_append, List.flatMap_append, List.filterMap_append, List.filterMap_append,
        List.getLast?_append, List.getLast?_append, last, own]
      cases new : ((m.told.filter fun e => e.service = id).filterMap tells?).getLast? with
      | none =>
          have quiet : ((m.toldOn cell).filterMap tells?).getLast? = none := by
            by_cases on : m.deed.IsOn cell id
            · rw [Moment.toldOn_of_isOn one.2 on, new]
            · rw [Moment.toldOn_of_not_isOn on]
              rfl
          rw [quiet]
          rcases ih one.1 with same | ⟨a, ⟨earlier, m', later, rfl, aside, tells, silent⟩, told⟩
          · exact .inl same
          · refine .inr ⟨a, ⟨earlier, m', later ++ [m], by simp, aside, tells, ?_⟩, told⟩
            rw [toldOf_append, List.filterMap_append, silent, last,
              List.getLast?_eq_none_iff.mp new]
            rfl
      | some a =>
          by_cases on : m.deed.IsOn cell id
          · rw [Moment.toldOn_of_isOn one.2 on, new]
            exact .inl rfl
          · refine .inr ⟨a, ⟨past, m, [], rfl, on, ?_, rfl⟩, rfl⟩
            rw [← new, Moment.filter_told_of_not_isOn on]

/-! ### What is stored last -/

/-- All that is told of a service is stored in the order in which it is told, and others keep what
the datastore knows of it. -/
structure Followed (id : Int) (past : List Moment) : Prop where
  keeps : ∀ m ∈ past, m.Keeps id
  inOrder : ∀ first, first <+: past → storedOf id first <+: toldOf id first
  all : storedOf id past = toldOf id past

/-- The last that is stored of a service after a load, of what is looked for in its events, has been
told on another live state than a given one. -/
structure Stray {α : Type} (tells? : Event → Option α) (id : Int) (cell : Nat)
    (past later : List Moment) (a : α) : Prop where
  told : ToldAside tells? id cell past a
  stored : ((storedOf id later).filterMap tells?).getLast? = some a

theorem Stray.not_all_isOn {α : Type} {tells? : Event → Option α} {cell : Nat}
    {past later : List Moment} {a : α} (stray : Stray tells? id cell past later a) :
    ¬ ∀ m ∈ past, m.deed.IsOn cell id := by
  obtain ⟨earlier, m, rest, rfl, aside, -⟩ := stray.told
  exact fun only => aside (only m (by simp))

section Following

variable {earlier later : List Moment}

/-- From any moment on the events are stored that wait then, and those that are told from then
on. -/
theorem Followed.exists_waiting (followed : Followed id (earlier ++ later)) :
    ∃ waiting, storedOf id later = waiting ++ toldOf id later := by
  obtain ⟨waiting, before⟩ := followed.inOrder earlier (List.prefix_append _ _)
  have all := followed.all
  rw [storedOf_append, toldOf_append, ← before, List.append_assoc] at all
  exact ⟨waiting, List.append_cancel_left all⟩

theorem Followed.own (followed : Followed id (earlier ++ later)) {e : Event}
    (mem : e ∈ storedOf id later) :
    e.service = id ∧ e.source ∈ Event.acceptedSources ∧ ∀ t ∈ e.status?, t ≠ .unknown := by
  have told : e ∈ toldOf id (earlier ++ later) := by
    rw [← followed.all, storedOf_append]
    exact List.mem_append_right _ mem
  exact of_mem_toldOf told

/-- If a live state is new after a load, what is stored last is what is told last on it, or it has
been told on another one. -/
theorem Followed.last_cases {α : Type} (tells? : Event → Option α) {cell : Nat}
    (followed : Followed id (earlier ++ later)) (new : ∀ m ∈ earlier, m.toldOn cell = [])
    (one : ∀ m ∈ earlier ++ later, m.deed.IsOf cell id) :
    (((earlier ++ later).flatMap (·.toldOn cell)).filterMap tells?).getLast? =
        ((storedOf id later).filterMap tells?).getLast? ∨
      ∃ a, Stray tells? id cell (earlier ++ later) later a := by
  have own : (earlier ++ later).flatMap (·.toldOn cell) = later.flatMap (·.toldOn cell) := by
    rw [List.flatMap_append, List.flatMap_eq_nil_iff.mpr new, List.nil_append]
  cases last : ((storedOf id later).filterMap tells?).getLast? with
  | none =>
      obtain ⟨waiting, stored⟩ := followed.exists_waiting
      have quiet : (toldOf id later).filterMap tells? = [] := by
        rw [stored, List.filterMap_append, List.getLast?_eq_none_iff] at last
        exact (List.append_eq_nil_iff.mp last).2
      rcases last_told_cases tells? fun m mem => one m (List.mem_append_right _ mem) with
        same | ⟨a, -, told⟩
      · rw [own, ← same, quiet]
        exact .inl rfl
      · rw [quiet] at told
        cases told
  | some a =>
      have told : ((toldOf id (earlier ++ later)).filterMap tells?).getLast? = some a := by
        rw [← followed.all, storedOf_append, List.filterMap_append, List.getLast?_append, last]
        rfl
      rcases last_told_cases tells? one with same | ⟨b, aside, told'⟩
      · exact .inl (same.symm.trans told)
      · cases told.symm.trans told'
        exact .inr ⟨a, aside, last⟩

end Following

/-! ### What the datastore knows in the end -/

section Seeding

variable {α : Type} {tells? : Event → Option α} {cell : Nat} {past later : List Moment}
  {brought s : Service} {live : Live} {reports : List Report} {flag version : Cell}

/-- What is stored last is as it is on a live state, unless it has been told on another one and
differs. -/
theorem agrees_iff {agrees : α → Prop} {own : Option α} {a : α}
    (cases : own = some a ∨ ∃ a, Stray tells? id cell past later a)
    (told : ∀ a, own = some a → agrees a)
    (last : ((storedOf id later).filterMap tells?).getLast? = some a) :
    agrees a ↔ ¬ ∃ a, Stray tells? id cell past later a ∧ ¬ agrees a := by
  constructor
  · rintro here ⟨b, stray, other⟩
    cases last.symm.trans stray.stored
    exact other here
  · intro none
    rcases cases with own | ⟨b, stray⟩
    · exact told a own
    · cases last.symm.trans stray.stored
      by_contra other
      exact none ⟨a, stray, other⟩

theorem not_stray (none : ((storedOf id later).filterMap tells?).getLast? = none)
    {agrees : α → Prop} :
    ¬ ∃ a, Stray tells? id cell past later a ∧ ¬ agrees a := by
  rintro ⟨a, stray, -⟩
  cases none.symm.trans stray.stored

/-- Where nothing is told of its status, a service that has been seen has the status that the
datastore knows, unless it came as unknown, has always been up since, and is down for the
datastore. -/
theorem quiet_status_iff (reported : Reported (.ofService brought) reports live)
    (seen : reports ≠ []) (came : brought.status = .unknown ∨ brought.status = flag.knownStatus)
    (quiet : Report.statuses reports = []) : flag.knownStatus = live.status ↔
      ¬ (brought.status = .unknown ∧ (∀ r ∈ reports, r.verdict.status = .up) ∧
        flag.knownStatus = .down) := by
  have known := reported.known seen
  have last := reported.last_status
  rw [quiet] at last
  change live.status.opposite = brought.status.opposite at last
  rcases came with unknown | taken
  · rw [unknown] at last
    have up : live.status = .up := Status.eq_of_opposite_eq known (by decide) last
    have always := (reported.statuses_eq_nil_iff (by simp [Live.ofService, unknown])).mp quiet
    have either := flag.knownStatus_ne
    rw [up]
    cases status : flag.knownStatus with
    | up => simp
    | down => simpa [unknown] using always
    | unknown => exact absurd status either
  · have told : brought.status ≠ .unknown := taken ▸ flag.knownStatus_ne
    rw [← taken]
    refine iff_of_true (Status.eq_of_opposite_eq known told last).symm ?_
    rintro ⟨unknown, -⟩
    exact told unknown

/-- The datastore knows the live status of a service in the end, unless this came as unknown, has
always been up since, and is down for the datastore, or what is stored last has been told on another
live state. -/
theorem seeds_status_iff (reported : Reported (.ofService brought) reports live)
    (seen : reports ≠ [])
    (came : brought.status = .unknown ∨ brought.status = flag.knownStatus)
    (last : (Report.statuses reports).getLast? =
      ((storedOf id later).filterMap Event.status?).getLast? ∨
      ∃ t, Stray Event.status? id cell past later t)
    (stored : ∀ t ∈ (storedOf id later).filterMap Event.status?, t ≠ .unknown)
    (starts : s.status = (((((storedOf id later).filterMap Event.status?).getLast?).map fun s =>
      Cell.text s.flag).getD flag).knownStatus) :
    s.status = live.status ↔
      ¬ (brought.status = .unknown ∧ (∀ r ∈ reports, r.verdict.status = .up) ∧ s.status = .down) ∧
        ¬ ∃ t, Stray Event.status? id cell past later t ∧ t ≠ live.status := by
  simp only [ne_eq]
  cases told : ((storedOf id later).filterMap Event.status?).getLast? with
  | none =>
      rw [told] at starts last
      have quiet : Report.statuses reports = [] := by
        rcases last with none | ⟨t, stray⟩
        · exact List.getLast?_eq_none_iff.mp none
        · cases told.symm.trans stray.stored
      rw [and_iff_left (not_stray told), starts]
      exact quiet_status_iff reported seen came quiet
  | some t =>
      rw [told] at starts last
      have same : s.status = t :=
        starts.trans (Cell.knownStatus_flag (stored t (List.mem_of_getLast? told)))
      have own : ∀ t, (Report.statuses reports).getLast? = some t → t = live.status := by
        intro t here
        have known := reported.known_of_told t (List.mem_of_getLast? here)
        refine Status.eq_of_opposite_eq known (reported.known seen) ?_
        rw [reported.last_status, here]
        rfl
      rw [same, agrees_iff last own told]
      refine (and_iff_right_of_imp fun agrees => ?_).symm
      rintro ⟨-, up, down⟩
      have lives : live.status = .up := reported.status_of_all seen up
      rw [← agrees_iff last own told, lives, down] at agrees
      cases agrees

/-- The datastore knows the live version of a service in the end, unless what is stored last has
been told on another live state. -/
theorem seeds_version_iff (reported : Reported (.ofService brought) reports live)
    (came : brought.version = version.knownVersion)
    (last : (Report.versions reports).getLast? =
      ((storedOf id later).filterMap Event.version?).getLast? ∨
      ∃ v, Stray Event.version? id cell past later v)
    (starts : s.version = (((((storedOf id later).filterMap Event.version?).getLast?).map
      Cell.text).getD version).knownVersion) :
    s.version = live.version.filter (· != "") ↔
      ¬ ∃ v, Stray Event.version? id cell past later v ∧
        (some v).filter (· != "") ≠ live.version.filter (· != "") := by
  simp only [ne_eq]
  cases told : ((storedOf id later).filterMap Event.version?).getLast? with
  | none =>
      rw [told] at starts last
      have quiet : (Report.versions reports).getLast? = none := by
        rcases last with none | ⟨v, stray⟩
        · exact none
        · cases told.symm.trans stray.stored
      refine iff_of_true ?_ (not_stray told)
      rw [starts, reported.last_version, quiet]
      change version.knownVersion = brought.version.filter (· != "")
      rw [came, Cell.knownVersion, Option.filter_filter]
      simp
  | some v =>
      rw [told] at starts last
      have own : ∀ v, (Report.versions reports).getLast? = some v →
          (some v).filter (· != "") = live.version.filter (· != "") := by
        intro v here
        rw [reported.last_version, here]
        rfl
      rw [starts]
      exact agrees_iff last own told

end Seeding

/-! ### Restarts -/

theorem statuses_reportsOf (build : Service → Option Checker) (cell : Nat) (past : List Moment) :
    Report.statuses (reportsOf build cell past) =
      (past.flatMap (·.toldOn cell)).filterMap Event.status? := by
  rw [← events_reportsOf build, List.filterMap_flatMap]
  rfl

theorem versions_reportsOf (build : Service → Option Checker) (cell : Nat) (past : List Moment) :
    Report.versions (reportsOf build cell past) =
      (past.flatMap (·.toldOn cell)).filterMap Event.version? := by
  rw [← events_reportsOf build, List.filterMap_flatMap]
  rfl

/-- When the program starts again it finds of a service what has been stored of it last since some
moment, and otherwise what was known then. -/
theorem Followed.starts {g : Gateway} {l : Gateway.Loading} {services : List Service} {s : Service}
    {earlier later : List Moment} {u w : Upkeep} {flag version : Cell}
    (followed : Followed id (earlier ++ later)) (after : Run build u later w)
    (regular : u.db.Regular) (knownFlag : u.db.known? .up id = some flag)
    (knownVersion : u.db.known? .version id = some version)
    (again : (g.load true l w.db).1 = .ok services) (mem : s ∈ services) (here : s.id = id) :
    s.status = (((((storedOf id later).filterMap Event.status?).getLast?).map fun s =>
        Cell.text s.flag).getD flag).knownStatus ∧
      s.version = (((((storedOf id later).filterMap Event.version?).getLast?).map
        Cell.text).getD version).knownVersion := by
  obtain ⟨regular', known⟩ :=
    after.known regular fun m mem => followed.keeps m (List.mem_append_right _ mem)
  have known := known fun e mem => (followed.own mem).2.1
  obtain ⟨flag', version', knownFlag', knownVersion', status, version_eq⟩ :=
    Gateway.backs_of_load regular' again s mem
  rw [here, known .up flag knownFlag, lastTold_up fun e mem => (followed.own mem).1,
    Option.some.injEq] at knownFlag'
  rw [here, known .version version knownVersion, lastTold_version fun e mem => (followed.own mem).1,
    Option.some.injEq] at knownVersion'
  exact ⟨knownFlag' ▸ status, knownVersion' ▸ version_eq⟩

/-- When the program starts again after all events have been stored, it finds of a service that has
had verdicts the live status and version, with two exceptions. It finds another status if the
service came into the roster as unknown, was always up since then, and is down for the datastore.
And it finds another status or version if the last one that has been stored since the load with
which the service came in is another one, from a verdict on a live state that the service had at an
earlier time. -/
theorem restart_seeds_iff {g g' : Gateway} {db : Database} {past : List Moment} {w : Upkeep}
    {e : Monitored} {l : Gateway.Loading} {services : List Service} (unused : g.cache = [])
    (regular : db.Regular) (run : Run build (.start g db) past w)
    (entry : w.world.roster.entry? id = some e) (followed : Followed id past)
    (seen : reportsOf build e.cell past ≠ []) (again : (g'.load true l w.db).1 = .ok services) :
    ∃ earlier load later listed brought, past = earlier ++ load :: later ∧
      load.loaded? = some listed ∧ brought ∈ listed ∧ brought.id = id ∧
      (∃ between m rest, later = between ++ m :: rest ∧ (∀ m ∈ between, m.loaded? = none) ∧
        m.Brings brought e.cell) ∧
      ∀ s ∈ services, s.id = id →
        (s.version = (w.world.roster.live e).version.filter (· != "") ↔
          ¬ ∃ v, Stray Event.version? id e.cell past later v ∧
            (some v).filter (· != "") ≠ (w.world.roster.live e).version.filter (· != "")) ∧
        (s.status = (w.world.roster.live e).status ↔
          ¬ (brought.status = .unknown ∧
            (∀ r ∈ reportsOf build e.cell past, r.verdict.status = .up) ∧ s.status = .down) ∧
          ¬ ∃ t, Stray Event.status? id e.cell past later t ∧
            t ≠ (w.world.roster.live e).status) := by
  have owned : w.world.Owned := run.roster.owned .empty
  have held : e ∈ w.world.handles := owned.held e (Roster.mem_list.mpr ⟨id, entry⟩)
  have number := owned.roster.named id e entry
  have one := run.isOf fun h mem same => (owned.one h mem e held same).trans number
  -- The merge with which the service came in, and its entry then, of the same live state.
  obtain ⟨calm, m, rest, o, rfl, same, arrival⟩ := run.exists_arrival (by rintro h ⟨⟩) held
  obtain ⟨-, -, brings, -, listed, loaded, fetched, inside⟩ := brings_of_act? arrival.comes
    (arrival.owned_before .empty) arrival.new arrival.held
  have reported := arrival.reported .empty
  have quiet := arrival.before.toldOn_eq_nil arrival.new
  have mine : o.service.id = id :=
    (owned.one o (arrival.after.roster.handles arrival.held) e held same).trans number
  have live : w.world.roster.live e = w.world.roster.live o := by
    rw [Roster.live, Roster.live, same]
  rw [← same] at one seen
  rw [← same, live]
  -- The load of the list with which it came in, and what the datastore knew then.
  obtain ⟨earlier, load, between, rfl, loads, unloaded⟩ :=
    arrival.before.exists_last_load unused fetched (List.ne_nil_of_mem inside)
  rw [List.append_assoc, List.cons_append] at run followed seen reported one ⊢
  obtain ⟨before, asked, after⟩ := run.split
  have regular₀ := (before.known regular fun m mem => followed.keeps m (by simp [mem])).1
  have regular₁ := (known_of_act? asked regular₀ (followed.keeps load (by simp))).1
  obtain ⟨flag, version, knownFlag, knownVersion, status, version'⟩ :=
    (backs_of_loads asked loads regular₀).2 o.service inside
  rw [mine] at knownFlag knownVersion
  refine ⟨earlier, load, _, listed, o.service, rfl, loads, inside, mine,
    ⟨between, m, rest, rfl, unloaded, brings⟩, fun s mem here => ?_⟩
  generalize between ++ m :: rest = later at *
  -- What it knows in the end is what has been stored last since then.
  rw [List.append_cons] at followed seen reported one quiet ⊢
  obtain ⟨starts, starts'⟩ :=
    followed.starts after regular₁ knownFlag knownVersion again mem here
  have new : ∀ m ∈ earlier ++ [load], m.toldOn o.cell = [] := fun m mem =>
    quiet m (List.mem_append_left _ mem)
  constructor
  · refine seeds_version_iff reported version' ?_ starts'
    rw [versions_reportsOf]
    exact followed.last_cases Event.version? new one
  · refine seeds_status_iff reported seen ?_ ?_ (fun t tells => ?_) starts
    · cases full : load.before.full with
      | true => exact .inr (by simpa [full] using status)
      | false => exact .inl (by simpa [full] using status)
    · rw [statuses_reportsOf]
      exact followed.last_cases Event.status? new one
    · obtain ⟨e, stored, here⟩ := List.mem_filterMap.mp tells
      exact (followed.own stored).2.2 t here

/-! ### One service -/

theorem sshService_regular (s : Status) : (sshService s).Regular := by
  unfold sshService
  cases made : sshService? s with
  | none => exact .empty
  | some db =>
      simp only [sshService?, Option.bind_eq_bind, Option.bind_eq_some_iff, Option.pure_def] at made
      obtain ⟨⟨_, _⟩, node, ⟨_, _⟩, service, ⟨⟩⟩ := made
      exact (Database.Regular.empty.migrate.insert? node).insert? service

def paused (s : Status) : Database :=
  (((sshService s).update? serviceLayout.name "active" (.integer 0) (.integer 1)).map (·.1)).getD
    .empty

theorem paused_regular (s : Status) : (paused s).Regular := by
  unfold paused
  cases done : (sshService s).update? serviceLayout.name "active" (.integer 0) (.integer 1) with
  | none => exact .empty
  | some r =>
      have planned : serviceLayout ∈ Database.plan := by simp [Database.plan]
      exact (sshService_regular s).update? planned (i := 2) (by decide) rfl done

def entryAfter (db : Database) (deeds : List Deed) : Monitored :=
  (((start Writer.connected db).play? Roster.builtin deeds).bind
    fun r => r.2.world.roster.entry? 1).getD default

def calmly : Gateway.Loading := ((.sound, .sound), (.sound, .sound))

/-- What a restart finds of the service when nothing breaks. -/
def found? (u : Upkeep) : Option Service :=
  match (Writer.connected.load true calmly u.db).1 with
  | .ok [s] => if s.id = 1 then some s else none
  | _ => none

/-- A run after which the program starts again: all that has been told of the service is stored, and
it has an entry that has had verdicts. -/
structure Restarted (db : Database) (past : List Moment) (w : Upkeep) (e : Monitored)
    (s : Service) : Prop where
  regular : db.Regular
  run : Run Roster.builtin (.start Writer.connected db) past w
  followed : Followed 1 past
  entry : w.world.roster.entry? 1 = some e
  seen : reportsOf Roster.builtin e.cell past ≠ []
  again : (Writer.connected.load true calmly w.db).1 = .ok [s]
  named : s.id = 1

/-- Whether others leave a datastore of one service behind that knows the same of it. -/
def Moment.isDiscreet (m : Moment) : Bool :=
  !m.deed.byOthers || [Status.up, .down].any (fun s => m.after.db = sshService s || m.after.db =
    paused s) &&
    [Mark.up, .version].all fun mark => m.after.db.known? mark 1 = m.before.db.known? mark 1

theorem Moment.keeps_of_isDiscreet {m : Moment} (discreet : m.isDiscreet = true) : m.Keeps 1 := by
  intro others
  simp only [isDiscreet, others, Bool.not_true, Bool.false_or, Bool.and_eq_true, List.any_eq_true,
    List.all_eq_true, Bool.or_eq_true, decide_eq_true_eq] at discreet
  obtain ⟨⟨s, -, db | db⟩, same⟩ := discreet
  · exact ⟨db ▸ sshService_regular s, fun mark c known =>
        (same mark (by cases mark <;> simp)).trans known⟩
  · exact ⟨db ▸ paused_regular s, fun mark c known =>
        (same mark (by cases mark <;> simp)).trans known⟩

/-- Whether a schedule is one after which the program can start again, seen from its end. -/
def isRestarted (past : List Moment) (w : Upkeep) (e : Monitored) : Bool :=
  past.all Moment.isDiscreet &&
    past.inits.all (fun first => (storedOf 1 first).isPrefixOf (toldOf 1 first)) &&
    storedOf 1 past == toldOf 1 past && w.world.roster.entry? 1 == some e &&
    !(reportsOf Roster.builtin e.cell past).isEmpty

theorem of_found? {u : Upkeep} {s : Service} (found : found? u = some s) :
    (Writer.connected.load true calmly u.db).1 = .ok [s] ∧ s.id = 1 := by
  unfold found? at found
  split at found
  · rename_i load
    split at found
    · rename_i named
      cases found
      exact ⟨load, named⟩
    · cases found
  · cases found

def sshEntry : Monitored := entryAfter (sshService .up) refresh

/-- Where a schedule comes to something of a kind, there is a run to it, and a restart. -/
theorem exists_restart {db : Database} (regular : db.Regular) (deeds : List Deed) (e : Monitored)
    (q : List Moment → Upkeep → Service → Prop) [∀ past w s, Decidable (q past w s)]
    (happens : ((start Writer.connected db).play? Roster.builtin deeds).any (fun r =>
      isRestarted r.1 r.2 e && (found? r.2).any fun s => q r.1 r.2 s) = true) :
    ∃ past w s, Restarted db past w e s ∧ q past w s := by
  obtain ⟨⟨past, w⟩, played, check⟩ := (Option.any_eq_true _ _).mp happens
  rw [Bool.and_eq_true] at check
  obtain ⟨s, found, check'⟩ := (Option.any_eq_true _ _).mp check.2
  have check := check.1
  simp only [isRestarted, Bool.and_eq_true, List.all_eq_true, beq_iff_eq, Bool.not_eq_true']
    at check
  obtain ⟨⟨⟨⟨discreet, inOrder⟩, all⟩, entry⟩, seen⟩ := check
  obtain ⟨again, named⟩ := of_found? found
  refine ⟨past, w, s, ⟨regular, run_of_play? deeds played, ⟨?_, ?_, all⟩, entry, ?_, again, named⟩,
    of_decide_eq_true check'⟩
  · exact fun m mem => Moment.keeps_of_isDiscreet (discreet m mem)
  · exact fun first before => List.isPrefixOf_iff_prefix.mp
      (inOrder first ((List.mem_inits _ _).mpr before))
  · intro none
    rw [none] at seen
    cases seen

/-- The service goes down and up again, and both is stored. -/
def upAgain : List Deed :=
  let live := sshEntry
  refresh ++
    [.record live (.down "refused") default, .record live (.up "open") default,
      .commit (.stateChange live.service .down "refused" default) .sound .sound,
      .commit (.stateChange live.service .up "open" default) .sound .sound]

theorem upAgain_seeds :
    ∃ past w s, Restarted (sshService .up) past w sshEntry s ∧
      s.status = (w.world.roster.live sshEntry).status ∧
      s.version = (w.world.roster.live sshEntry).version.filter (· != "") := by
  obtain ⟨past, w, s, restarted, down, only⟩ :=
    exists_restart (sshService_regular .up) upAgain sshEntry
    (fun past _ _ => (∃ r ∈ reportsOf Roster.builtin sshEntry.cell past, r.verdict.status = .down) ∧
      ∀ m ∈ past, m.deed.IsOn sshEntry.cell 1)
    (by decide +kernel)
  obtain ⟨_, _, _, _, brought, rfl, -, -, -, -, seeds⟩ := restart_seeds_iff rfl restarted.regular
    restarted.run restarted.entry restarted.followed restarted.seen restarted.again
  obtain ⟨version, status⟩ := seeds s (List.mem_singleton_self s) restarted.named
  refine ⟨_, w, s, restarted, status.mpr ⟨?_, ?_⟩, version.mpr ?_⟩
  · rintro ⟨-, up, -⟩
    obtain ⟨r, report, was⟩ := down
    rw [up r report] at was
    cases was
  · rintro ⟨t, stray, -⟩
    exact stray.not_all_isOn only
  · rintro ⟨v, stray, -⟩
    exact stray.not_all_isOn only

def comesLater : List Deed := refresh ++ [.others true true (sshService .down)] ++ refresh

def lateEntry : Monitored := entryAfter (paused .down) comesLater

/-- The service comes in as unknown and is up, of which nothing is told: the datastore goes on to
know that it is down. -/
theorem silent_recovery_is_forgotten :
    ∃ past w s, Restarted (paused .down) past w lateEntry s ∧
      (∀ m ∈ past, m.deed.IsOn lateEntry.cell 1) ∧
      (w.world.roster.live lateEntry).status = .up ∧ s.status = .down :=
  exists_restart (paused_regular .down)
    (comesLater ++ [.record lateEntry (.up "open") default]) lateEntry
    (fun past w s => (∀ m ∈ past, m.deed.IsOn lateEntry.cell 1) ∧
      (w.world.roster.live lateEntry).status = .up ∧ s.status = .down)
    (by decide +kernel)

/-- The service is in the roster, is paused, and comes in again. -/
def comesBack : List Deed :=
  refresh ++ [.others true true (paused .up)] ++ refresh ++ [.others true true (sshService .up)] ++
    refresh

def backEntry : Monitored := entryAfter (sshService .up) comesBack

/-- A check that has begun before the service was paused goes down and up after it is back. -/
def lateVerdicts : List Deed :=
  let late := sshEntry
  let now := backEntry
  comesBack ++
    [.record now (.down "refused") default, .record late (.down "refused") default,
      .record late (.up "open") default,
      .commit (.stateChange now.service .down "refused" default) .sound .sound,
      .commit (.stateChange late.service .down "refused" default) .sound .sound,
      .commit (.stateChange late.service .up "open" default) .sound .sound]

/-- A verdict on the live state that the service has had before is stored as well. -/
theorem late_verdict_is_remembered :
    ∃ past w s, Restarted (sshService .up) past w backEntry s ∧
      (w.world.roster.live backEntry).status = .down ∧ s.status = .up :=
  exists_restart (sshService_regular .up) lateVerdicts backEntry
    (fun _ w s => (w.world.roster.live backEntry).status = .down ∧ s.status = .up)
      (by decide +kernel)

/-- A version is found before the service is paused, and stored after it has come in again. -/
def lateCommit : List Deed :=
  let before := sshEntry
  refresh ++
    [.record before ((Verdict.up "open").withVersion "OpenSSH_9.6") default,
      .others true true (paused .up)] ++ refresh ++
    [.others true true (sshService .up)] ++ refresh ++
    [.record backEntry (.up "open") default,
      .commit (.versionChange before.service "OpenSSH_9.6" default) .sound .sound]

/-- An event that waits while the service comes in again is stored as well. -/
theorem late_commit_is_remembered :
    ∃ past w s, Restarted (sshService .up) past w backEntry s ∧
      (w.world.roster.live backEntry).version = none ∧ s.version = some "OpenSSH_9.6" :=
  exists_restart (sshService_regular .up) lateCommit backEntry
    (fun _ w s => (w.world.roster.live backEntry).version = none ∧ s.version = some "OpenSSH_9.6")
    (by decide +kernel)

/-- A restart does not always find what is live: not after a silent recovery, and not if a verdict
on a live state from an earlier time, or an event from then, is stored after the service has come in
again. -/
theorem restart_forgets :
    (∃ past w s, Restarted (paused .down) past w lateEntry s ∧
      (∀ m ∈ past, m.deed.IsOn lateEntry.cell 1) ∧
      (w.world.roster.live lateEntry).status = .up ∧ s.status = .down) ∧
    (∃ past w s, Restarted (sshService .up) past w backEntry s ∧
      (w.world.roster.live backEntry).status = .down ∧ s.status = .up) ∧
    ∃ past w s, Restarted (sshService .up) past w backEntry s ∧
      (w.world.roster.live backEntry).version = none ∧ s.version = some "OpenSSH_9.6" :=
  ⟨silent_recovery_is_forgotten, late_verdict_is_remembered, late_commit_is_remembered⟩

end Vigil.Upkeep
