import Vigil.Proofs.Roster.Merge
import Vigil.Proofs.Store.Known
import Vigil.Watch.Basic

/-!
The roster and the datastore beside each other: the roster is refreshed from the datastore, verdicts
are recorded, and events are committed. A refresh takes several steps, between which the others go
on.

Main definition: `Upkeep.act?`, what becomes of both by a deed. Main statements:
`Upkeep.ask?_eq_fetch`, a refresh that nothing interrupts fetches what the gateway fetches;
`Upkeep.Run.roster`, the roster goes through a run of its own; `Upkeep.Run.listed`, the list that is
merged is the one that was loaded last.
-/

namespace Vigil

open Vigil.Clock Vigil.Store

namespace Upkeep

inductive Phase where
  | idle
  /-- The arguments of services have been asked for. -/
  | halfway (arguments : List (Int × String × Option String))
  /-- There is a list of services, and whether it has been loaded just now. -/
  | fetched (services : List Service) (loaded : Bool)
deriving DecidableEq

inductive Deed where
  | askArguments (first second : Attempt)
  | askServices (first second : Attempt)
  | merge
  | record (entry : Monitored) (verdict : Verdict) (time : Instant)
  | commit (e : Event) (first second : Attempt)
  /-- Someone else uses the datastore, or the connection to it. -/
  | others (connected reachable : Bool) (db : Database)

end Upkeep

/-- A roster and the datastore from which it is refreshed. -/
structure Upkeep where
  world : Roster.World
  /-- Whether the next refresh also asks for what was last known of the services. -/
  full : Bool
  gateway : Gateway
  db : Database
  phase : Upkeep.Phase

namespace Upkeep

def start (g : Gateway) (db : Database) : Upkeep := ⟨.empty, true, g, db, .idle⟩

/-- What becomes of roster and datastore by a deed, if it can be done. -/
def act? (build : Service → Option Checker) (u : Upkeep) : Deed → Option Upkeep
  | .askArguments first second =>
    match u.phase with
    | .idle =>
      match u.gateway.run "load service properties" selectArguments first second u.db with
      | (.error _, g) => some { u with gateway := g, phase := .fetched g.cache false }
      | (.ok arguments, g) => some { u with gateway := g, phase := .halfway arguments }
    | _ => none
  | .askServices first second =>
    match u.phase with
    | .halfway arguments =>
      match u.gateway.run "load services" selectServices first second u.db with
      | (.error _, g) => some { u with gateway := g, phase := .fetched g.cache false }
      | (.ok rows, g) =>
        let services := rows.filterMap (·.service? u.full arguments)
        some { u with gateway := { g with cache := services }, phase := .fetched services true }
    | _ => none
  | .merge =>
    match u.phase with
    | .fetched services _ => some { u with
        world := u.world.after (.merge build services u.gateway.reachable)
        full := u.full && !u.gateway.reachable
        phase := .idle }
    | _ => none
  | .record entry verdict time =>
    if u.world.allows (.record entry verdict time) then
      some { u with world := u.world.after (.record entry verdict time) }
    else none
  | .commit e first second =>
    let (_, g, db) := u.gateway.commit e first second u.db
    some { u with gateway := g, db }
  | .others connected reachable db =>
    some { u with gateway := { u.gateway with connected, reachable }, db }

/-! ### Steps -/

/-- A statement leaves the list that stands in for others as it is. -/
theorem cache_run {α : Type} (g : Gateway) (context : String)
    (statement : Breaks → Database → Option α) (first second : Attempt) (db : Database) :
    (g.run context statement first second db).2.cache = g.cache := by
  unfold Gateway.run
  split
  · rfl
  · rfl
  · dsimp only
    split
    · rfl
    · rfl
    · rfl

/-- Commits have nothing to do with the list that stands in. -/
theorem cache_commit (g : Gateway) (e : Event) (first second : Attempt) (db : Database) :
    (g.commit e first second db).2.1.cache = g.cache := by
  unfold Gateway.commit
  split
  · rfl
  · cases e.change with
    | version v =>
        have same := cache_run g "update service version" (storeVersion e v) first second db
        dsimp only
        split
        · exact same
        · exact same
    | state s =>
        have same := cache_run g "commit state event" (storeStatus e s) first second db
        dsimp only
        split
        · exact same
        · exact same

inductive Step (build : Service → Option Checker) (u : Upkeep) : Deed → Upkeep → Prop where
  | argumentsFail {first second : Attempt} {g : Gateway} (idle : u.phase = .idle)
      (same : g.cache = u.gateway.cache) :
      Step build u (.askArguments first second)
        { u with gateway := g, phase := .fetched u.gateway.cache false }
  | argumentsCome {first second : Attempt} {g : Gateway}
      {arguments : List (Int × String × Option String)} (idle : u.phase = .idle)
      (same : g.cache = u.gateway.cache) :
      Step build u (.askArguments first second) { u with gateway := g, phase := .halfway arguments }
  | servicesFail {first second : Attempt} {g : Gateway}
      {arguments : List (Int × String × Option String)} (halfway : u.phase = .halfway arguments)
      (same : g.cache = u.gateway.cache) :
      Step build u (.askServices first second)
        { u with gateway := g, phase := .fetched u.gateway.cache false }
  | servicesCome {first second : Attempt} {g : Gateway}
      {arguments : List (Int × String × Option String)} {b : Breaks} {rows : List ServiceRow}
      {services : List Service} (halfway : u.phase = .halfway arguments)
      (selected : selectServices b u.db = some rows)
      (list : services = rows.filterMap (·.service? u.full arguments))
        (cached : g.cache = services) :
      Step build u (.askServices first second)
        { u with gateway := g, phase := .fetched services true }
  | merged {services : List Service} {loaded : Bool}
      (fetched : u.phase = .fetched services loaded) :
      Step build u .merge { u with
        world := u.world.after (.merge build services u.gateway.reachable)
        full := u.full && !u.gateway.reachable
        phase := .idle }
  | recorded {entry : Monitored} {v : Verdict} {time : Instant}
      (allowed : u.world.allows (.record entry v time) = true) :
      Step build u (.record entry v time) { u with world := u.world.after (.record entry v time) }
  | committed {e : Event} {first second : Attempt} {answer : Except StoreFailure Unit} {g : Gateway}
      {db : Database} (done : u.gateway.commit e first second u.db = (answer, g, db))
      (same : g.cache = u.gateway.cache) :
      Step build u (.commit e first second) { u with gateway := g, db }
  | others {connected reachable : Bool} {db : Database} :
      Step build u (.others connected reachable db)
        { u with gateway := { u.gateway with connected, reachable }, db }

/-- There are no other steps. -/
theorem step_of_act? {build : Service → Option Checker} {u u' : Upkeep} {d : Deed}
    (done : u.act? build d = some u') : Step build u d u' := by
  cases d with
  | askArguments first second =>
      have same := cache_run u.gateway "load service properties" selectArguments first second u.db
      simp only [act?] at done
      split at done
      · rename_i idle
        split at done
        · rename_i failed
          rw [failed] at same
          cases done
          rw [same]
          exact .argumentsFail idle same
        · rename_i come
          rw [come] at same
          cases done
          exact .argumentsCome idle same
      · cases done
  | askServices first second =>
      have same := cache_run u.gateway "load services" selectServices first second u.db
      simp only [act?] at done
      split at done
      · rename_i arguments halfway
        split at done
        · rename_i failed
          rw [failed] at same
          cases done
          rw [same]
          exact .servicesFail halfway same
        · rename_i rows g come
          cases done
          obtain ⟨b, selected⟩ := Gateway.statement_of_run (congrArg Prod.fst come)
          exact .servicesCome halfway selected rfl rfl
      · cases done
  | merge =>
      simp only [act?] at done
      split at done
      · rename_i fetched
        cases done
        exact .merged fetched
      · cases done
  | record entry v time =>
      simp only [act?] at done
      split at done
      · rename_i allowed
        cases done
        exact .recorded allowed
      · cases done
  | commit e first second =>
      cases done
      exact .committed rfl (cache_commit u.gateway e first second u.db)
  | others connected reachable db =>
      cases done
      exact .others

/-! ### Runs -/

structure Moment where
  before : Upkeep
  deed : Deed
  after : Upkeep

/-- A run: all that is done from one moment on, the first deed first. -/
inductive Run (build : Service → Option Checker) : Upkeep → List Moment → Upkeep → Prop where
  | rest (u : Upkeep) : Run build u [] u
  | step {u next u' : Upkeep} {d : Deed} {past : List Moment} (done : u.act? build d = some next)
      (run : Run build next past u') : Run build u (⟨u, d, next⟩ :: past) u'

def Moment.loaded? (m : Moment) : Option (List Service) :=
  match m.deed, m.after.phase with
  | .askServices .., .fetched services true => some services
  | _, _ => none

def Moment.onRoster? (build : Service → Option Checker) (m : Moment) : Option Roster.Moment :=
  match m.deed, m.before.phase with
  | .merge, .fetched services _ =>
    some ⟨m.before.world.roster, .merge build services m.before.gateway.reachable, []⟩
  | .record entry v time, _ =>
    some ⟨m.before.world.roster, .record entry v time,
      (m.before.world.roster.record entry v time).2⟩
  | _, _ => none

def lastLoaded? (past : List Moment) : Option (List Service) :=
  (past.filterMap (·.loaded?)).getLast?

theorem lastLoaded?_cons (m : Moment) (past : List Moment) :
    lastLoaded? (m :: past) = (lastLoaded? past).or m.loaded? := by
  cases loads : m.loaded? with
  | none => simp [lastLoaded?, loads]
  | some services =>
      simp only [lastLoaded?, List.filterMap_cons, loads, List.getLast?_cons]
      cases (past.filterMap (·.loaded?)).getLast? <;> rfl

section Runs

variable {build : Service → Option Checker} {u u' : Upkeep} {past : List Moment}

theorem Run.append {v : Upkeep} {later : List Moment} (run : Run build u past v)
    (more : Run build v later u') : Run build u (past ++ later) u' := by
  induction run with
  | rest => exact more
  | step done _ ih => exact .step done (ih more)

/-- A run in two parts, and the deed with which the second one begins. -/
theorem Run.split {earlier later : List Moment} {m : Moment}
    (run : Run build u (earlier ++ m :: later) u') :
    Run build u earlier m.before ∧ m.before.act? build m.deed = some m.after ∧
      Run build m.after later u' := by
  induction earlier generalizing u with
  | nil =>
      cases run with
      | step done run => exact ⟨.rest _, done, run⟩
  | cons first earlier ih =>
      cases run with
      | step done run =>
          obtain ⟨before, here, after⟩ := ih run
          exact ⟨.step done before, here, after⟩

/-- The roster goes through a run of its own. -/
theorem Run.roster (run : Run build u past u') :
    Roster.Run u.world (past.filterMap (·.onRoster? build)) u'.world := by
  induction run with
  | rest => exact .rest _
  | @step u next u' d past done _ ih =>
      rw [List.filterMap_cons]
      cases step_of_act? done with
      | merged fetched =>
          simp only [Moment.onRoster?, fetched]
          exact .step (d := .merge build _ u.gateway.reachable) rfl ih
      | recorded allowed =>
          simp only [Moment.onRoster?]
          exact .step allowed ih
          | argumentsFail | argumentsCome | servicesFail | servicesCome | committed | others =>
              exact ih

/-- Whoever records a verdict holds the entry, also later. -/
theorem Run.held_of_record (run : Run build u past u') {m : Moment} (mem : m ∈ past)
    {entry : Monitored} {v : Verdict} {time : Instant} (deed : m.deed = .record entry v time) :
    entry ∈ u'.world.handles := by
  obtain ⟨earlier, later, rfl⟩ := List.append_of_mem mem
  obtain ⟨-, done, after⟩ := run.split
  refine (Run.step done after).roster.handles ?_
  rw [deed] at done
  generalize m.after = next at done
  cases step_of_act? done with
  | recorded allowed => exact List.contains_iff_mem.mp allowed

end Runs

/-! ### The list that stands in -/

/-- The list that stands in for others, and any list that is to be merged, is the one that was
loaded last. -/
structure Listed (last : Option (List Service)) (u : Upkeep) : Prop where
  cache : u.gateway.cache = last.getD []
  fetched : ∀ services loaded, u.phase = .fetched services loaded → services = last.getD []

theorem Listed.start {g : Gateway} (unused : g.cache = []) (db : Database) :
    Listed none (start g db) where
  cache := unused
  fetched _ _ phase := by cases phase

section Lists

variable {build : Service → Option Checker} {u u' : Upkeep} {last : Option (List Service)}

/-- Only a load that succeeds changes the list that stands in, and it changes the list to be merged
along with it. -/
theorem Listed.step {d : Deed} (listed : Listed last u) (step : Step build u d u') :
    Listed ((⟨u, d, u'⟩ : Moment).loaded?.or last) u' := by
  cases step with
  | argumentsFail _ same | servicesFail _ same =>
      refine ⟨same.trans listed.cache, fun services loaded phase => ?_⟩
      cases phase
      exact listed.cache
  | argumentsCome _ same =>
      refine ⟨same.trans listed.cache, fun services loaded phase => ?_⟩
      cases phase
  | servicesCome _ _ _ cached =>
      refine ⟨cached, fun services loaded phase => ?_⟩
      cases phase
      rfl
  | merged =>
      refine ⟨listed.cache, fun services loaded phase => ?_⟩
      cases phase
  | committed _ same => exact ⟨same.trans listed.cache, listed.fetched⟩
  | recorded | others => exact ⟨listed.cache, listed.fetched⟩

theorem Run.listed {past : List Moment} (run : Run build u past u') (listed : Listed last u) :
    Listed ((lastLoaded? past).or last) u' := by
  induction run generalizing last with
  | rest => exact listed
  | step done _ ih =>
      rw [lastLoaded?_cons, Option.or_assoc]
      exact ih (listed.step (step_of_act? done))

/-- The last one of some deeds of a kind, with what it does, and the deeds after it. -/
theorem exists_last {α : Type} {f : Moment → Option α} {past : List Moment} {a : α}
    (last : past.reverse.findSome? f = some a) :
    ∃ earlier m later, past = earlier ++ m :: later ∧ f m = some a ∧ ∀ m' ∈ later, f m' = none := by
  obtain ⟨later, m, earlier, split, here, none⟩ := List.findSome?_eq_some_iff.mp last
  refine ⟨earlier.reverse, m, later.reverse, ?_, here,
    fun m' mem => none m' (List.mem_reverse.mp mem)⟩
  rw [← List.reverse_reverse past, split]
  simp

/-- A list that is to be merged comes from the last load. -/
theorem Run.exists_last_load {g : Gateway} {db : Database} {past : List Moment}
    (run : Run build (.start g db) past u) (unused : g.cache = []) {services : List Service}
    {loaded : Bool} (fetched : u.phase = .fetched services loaded) (ne : services ≠ []) :
    ∃ earlier load between, past = earlier ++ load :: between ∧ load.loaded? = some services ∧
      ∀ m ∈ between, m.loaded? = none := by
  have list := (run.listed (.start unused db)).fetched services loaded fetched
  rw [Option.or_none] at list
  cases last : lastLoaded? past with
  | none =>
      rw [last] at list
      exact absurd list ne
  | some services' =>
      rw [last] at list
      subst list
      rw [lastLoaded?, List.getLast?_filterMap] at last
      exact exists_last last

end Lists

def play? (build : Service → Option Checker) (u : Upkeep) :
    List Deed → Option (List Moment × Upkeep)
  | [] => some ([], u)
  | d :: rest => do
    let next ← u.act? build d
    let (past, u') ← next.play? build rest
    return (⟨u, d, next⟩ :: past, u')

/-- A schedule that can be played is a run. -/
theorem run_of_play? {build : Service → Option Checker} {u u' : Upkeep} (deeds : List Deed)
    {past : List Moment} (played : u.play? build deeds = some (past, u')) :
    Run build u past u' := by
  induction deeds generalizing u past with
  | nil =>
      cases played
      exact .rest _
  | cons d rest ih =>
      simp only [play?, Option.bind_eq_bind, Option.bind_eq_some_iff, Option.pure_def,
        Option.some.injEq, Prod.mk.injEq] at played
      obtain ⟨next, done, ⟨tail, _⟩, more, rfl, rfl⟩ := played
      exact .step done (ih more)

/-- Where a schedule comes to something of a kind, there is a run to it. -/
theorem exists_run (build : Service → Option Checker) (u : Upkeep) (deeds : List Deed)
    (q : List Moment → Upkeep → Prop) [∀ past u', Decidable (q past u')]
    (happens : (u.play? build deeds).any (fun r => q r.1 r.2) = true) :
    ∃ past u', Run build u past u' ∧ q past u' := by
  obtain ⟨⟨past, u'⟩, played, check⟩ := (Option.any_eq_true _ _).mp happens
  exact ⟨past, u', run_of_play? deeds played, of_decide_eq_true check⟩

/-! ### Refreshes -/

/-- Ask for the services without a break. -/
def ask? (build : Service → Option Checker) (u : Upkeep) (l : Gateway.Loading) : Option Upkeep := do
  let next ← u.act? build (.askArguments l.1.1 l.1.2)
  match next.phase with
  | .halfway _ => next.act? build (.askServices l.2.1 l.2.2)
  | _ => return next

/-- If nothing comes in between, what has been fetched is what the gateway fetches. -/
theorem ask?_eq_fetch (build : Service → Option Checker) {u : Upkeep} (idle : u.phase = .idle)
    (l : Gateway.Loading) :
    u.ask? build l = some { u with
      gateway := (u.gateway.fetch u.full l u.db).2
      phase :=
        .fetched (u.gateway.fetch u.full l u.db).1 (u.gateway.load u.full l u.db).1.toBool } := by
  obtain ⟨⟨first, second⟩, ⟨third, fourth⟩⟩ := l
  simp only [ask?, act?, idle, Gateway.fetch, Gateway.load]
  cases u.gateway.run "load service properties" selectArguments first second u.db with
  | mk answer g =>
      cases answer with
      | error f => rfl
      | ok arguments =>
          cases come : g.run "load services" selectServices third fourth u.db with
          | mk answer g' =>
              cases answer with
              | error f => simp [come, Except.toBool]
              | ok rows => simp [come, Except.toBool]

/-- A merge is what a watch makes of what it has been given. -/
theorem merge_eq_refresh {u next : Upkeep} {w : Watch} {services : List Service} {loaded : Bool}
    (fetched : u.phase = .fetched services loaded) (list : w.stage.services = services)
    (reachable : w.stage.reachable = u.gateway.reachable) (roster : w.roster = u.world.roster)
    (full : w.fullRefresh = u.full) (done : u.act? w.policy.build .merge = some next) :
    w.refresh.1.roster = next.world.roster ∧ w.refresh.1.fullRefresh = next.full := by
  simp only [act?, fetched] at done
  cases done
  subst list
  constructor
  · change (w.roster.merge w.policy.build w.stage.services w.stage.reachable).1 = _
    rw [roster, reachable]
    rfl
  · change (w.fullRefresh && !w.stage.reachable) = _
    rw [full, reachable]

end Upkeep

end Vigil
