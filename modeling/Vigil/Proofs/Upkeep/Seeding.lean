import Vigil.Proofs.Store.Commit
import Vigil.Proofs.Upkeep.Arrival
import Vigil.Proofs.Upkeep.Outage
import Vigil.Proofs.Upkeep.Restart

/-!
When the program asks what was last known of the services.

The status of a service is taken from the datastore only by the first list of services that is
loaded. The gateway is asked for it until then, and the question stops with the first merge at which
the datastore counts as reachable, which others may bring about as well; but there are no others
before there are services.

Main definition: `Upkeep.Seeding`, what is known of the question along a run. Main statement:
`Upkeep.seeds_once`.
-/

namespace Vigil.Upkeep

open Vigil.Store

variable {build : Service → Option Checker} {u u' : Upkeep} {past : List Moment}

/-! ### What others do -/

/-- Others leave the datastore in good order, and the gateway to itself: whether the last statement
reached the datastore is known from the statements of the program only. -/
def Moment.Discreet (m : Moment) : Prop :=
  m.deed.byOthers = true →
    m.after.db.Regular ∧ m.after.gateway.reachable = m.before.gateway.reachable

def Deed.committed? : Deed → Option Event
  | .commit e _ _ => some e
  | _ => none

/-- Each event that some deeds commit has been told before, by them or earlier. -/
def OnlyTold : List Event → List Moment → Prop
  | _, [] => True
  | told, m :: rest => (∀ e ∈ m.deed.committed?, e ∈ told) ∧ OnlyTold (told ++ m.told) rest

instance decidableOnlyTold : (told : List Event) →
    (past : List Moment) → Decidable (OnlyTold told past)
  | _, [] => .isTrue trivial
  | told, m :: rest =>
    have := decidableOnlyTold (told ++ m.told) rest
    inferInstanceAs (Decidable ((∀ e ∈ m.deed.committed?, e ∈ told) ∧ _))

theorem OnlyTold.of_append {told : List Event} {later : List Moment}
    (only : OnlyTold told (past ++ later)) : OnlyTold told past := by
  induction past generalizing told with
  | nil => trivial
  | cons m past ih => exact ⟨only.1, ih only.2⟩

/-- The datastore stays in good order. -/
theorem regular_of_act? {d : Deed} (done : u.act? build d = some u') (regular : u.db.Regular)
    (discreet : Moment.Discreet ⟨u, d, u'⟩) : u'.db.Regular := by
  cases others : d.byOthers with
  | true => exact (discreet others).1
  | false =>
      have keeps : Moment.Keeps ⟨u, d, u'⟩ 0 := fun foreign => by cases others.symm.trans foreign
      exact (known_of_act? done regular keeps).1

theorem Run.regular (run : Run build u past u') (regular : u.db.Regular)
    (discreet : ∀ m ∈ past, m.Discreet) : u'.db.Regular := by
  induction run with
  | rest => exact regular
  | step done _ ih =>
      rw [List.forall_mem_cons] at discreet
      exact ih (regular_of_act? done regular discreet.1) discreet.2

/-! ### Loads -/

/-- Once there is a list of services, the datastore counts as reachable exactly if it has been
loaded, until others commit something or use the gateway. -/
theorem reachable_of_fetched {d : Deed} (done : u.act? build d = some u') {services : List Service}
    {loaded : Bool} (fetched : u'.phase = .fetched services loaded) :
    u'.gateway.reachable = loaded ∨ u.phase = .fetched services loaded ∧
      (u'.gateway.reachable = u.gateway.reachable ∨ d.committed?.isSome = true ∨
        d.byOthers = true) := by
  cases d with
  | askArguments first second =>
      simp only [act?] at done
      split at done
      · split at done
        · rename_i failed
          cases done
          cases fetched
          exact .inl (Gateway.unreachable_of_run failed)
        · cases done
          cases fetched
      · cases done
  | askServices first second =>
      have reached :=
        Gateway.reachable_of_run u.gateway "load services" selectServices first second u.db
      simp only [act?] at done
      split at done
      · split at done
        · rename_i failed
          cases done
          cases fetched
          exact .inl (Gateway.unreachable_of_run failed)
        · rename_i come
          rw [come] at reached
          cases done
          cases fetched
          exact .inl (reached.mpr ⟨_, rfl⟩)
      · cases done
  | merge =>
      simp only [act?] at done
      split at done
      · cases done
        cases fetched
      · cases done
  | record entry v time =>
      simp only [act?] at done
      split at done
      · cases done
        exact .inr ⟨fetched, .inl rfl⟩
      · cases done
  | commit e first second =>
      cases done
      exact .inr ⟨fetched, .inr (.inl rfl)⟩
  | others connected reachable db =>
      cases done
      exact .inr ⟨fetched, .inr (.inr rfl)⟩

/-- A list that has been loaded is loaded by this deed, or has been before and is not merged by
it. -/
theorem loads_of_fetched {d : Deed} (done : u.act? build d = some u') {services : List Service}
    (fetched : u'.phase = .fetched services true) :
    Moment.loaded? ⟨u, d, u'⟩ = some services ∨ u.phase = .fetched services true ∧ d ≠ .merge := by
  cases step_of_act? done with
  | argumentsFail | argumentsCome | servicesFail | merged => cases fetched
  | servicesCome =>
      cases fetched
      exact .inl rfl
  | recorded | committed | others =>
      refine .inr ⟨fetched, ?_⟩
      rintro ⟨⟩

/-- A list that has been loaded and is still to be merged comes from the last load. -/
theorem Run.exists_load (run : Run build u past u') {services : List Service}
    (fetched : u'.phase = .fetched services true) :
    (u.phase = .fetched services true ∧ ∀ m ∈ past, m.deed ≠ .merge) ∨
      ∃ before ask between, past = before ++ ask :: between ∧ ask.loaded? = some services ∧
        ∀ m ∈ between, m.deed ≠ .merge := by
  induction run with
  | rest => exact .inl ⟨fetched, fun m mem => absurd mem List.not_mem_nil⟩
  | @step u next u' d past done _ ih =>
      rcases ih fetched with ⟨here, unmerged⟩ | ⟨before, ask, between, rfl, loads, unmerged⟩
      · rcases loads_of_fetched done here with loads | ⟨earlier, other⟩
        · exact .inr ⟨[], _, past, rfl, loads, unmerged⟩
        · exact .inl ⟨earlier, List.forall_mem_cons.mpr ⟨other, unmerged⟩⟩
      · exact .inr ⟨_ :: before, ask, between, rfl, loads, unmerged⟩

/-! ### The question for the status -/

/-- No service of a list that is to be checked could be given an entry that it does not have. -/
def Exhausted (build : Service → Option Checker) (services : List Service) (r : Roster) : Prop :=
  ∀ s ∈ services, s.active = true → r.entry? s.id = none → build s = none

theorem exhausted_merge {r : Roster} {services : List Service} {reachable : Bool} :
    Exhausted build services (r.merge build services reachable).1 := by
  intro s mem active absent
  have ne : services ≠ [] := List.ne_nil_of_mem mem
  have refused := (Roster.entry?_merge_eq_none ne s.id).mp absent s mem rfl
  simp only [Roster.accepts, active, Bool.true_and, Bool.or_eq_false_iff] at refused
  simpa using refused.2

/-- How things stand after some deeds that have loaded a list last, and told of events. -/
structure Seeding (build : Service → Option Checker) (last : Option (List Service))
    (told : List Event) (u : Upkeep) : Prop extends Listed last u where
  loads : ∀ services, u.phase = .fetched services true → last.isSome = true
  /-- The status is asked for until a list has been loaded and merged. -/
  asks : (∀ services, u.phase ≠ .fetched services true) → u.full = last.isNone
  /-- As long as it is asked for there are no services, and nobody commits anything. -/
  young : u.full = true → u.world = .empty ∧ told = [] ∧
    ∀ services loaded, u.phase = .fetched services loaded → u.gateway.reachable = loaded
  /-- To merge the list again brings no service. -/
  exhausted : (∀ services, u.phase ≠ .fetched services true) →
    Exhausted build (last.getD []) u.world.roster

theorem Seeding.start {g : Gateway} (unused : g.cache = []) (db : Database) :
    Seeding build none [] (start g db) where
  toListed := .start unused db
  loads _ phase := by cases phase
  asks _ := rfl
  young _ := ⟨rfl, rfl, fun _ _ phase => by cases phase⟩
  exhausted _ _ mem := by cases mem

/-- After a load that has failed, the last list stands in. -/
theorem Seeding.fail {last : Option (List Service)} {told : List Event} {g : Gateway}
    (seeding : Seeding build last told u)
    (waiting : ∀ services loaded, u.phase ≠ .fetched services loaded)
    (same : g.cache = u.gateway.cache) (unreachable : g.reachable = false) :
    Seeding build last told { u with gateway := g, phase := .fetched u.gateway.cache false } where
  cache := same.trans seeding.cache
  fetched services loaded here := by
    cases here
    exact seeding.cache
  loads services here := by cases here
  asks _ := seeding.asks fun services => waiting services true
  young full := by
    obtain ⟨empty, untold, -⟩ := seeding.young full
    refine ⟨empty, untold, fun services loaded here => ?_⟩
    cases here
    exact unreachable
  exhausted _ := seeding.exhausted fun services => waiting services true

/-- A merge ends the question for the status exactly if a list has been loaded. -/
theorem Seeding.merge {last : Option (List Service)} {told : List Event} {services : List Service}
    {loaded : Bool} (seeding : Seeding build last told u)
    (fetched : u.phase = .fetched services loaded) :
    Seeding build last told { u with
      world := u.world.after (.merge build services u.gateway.reachable)
      full := u.full && !u.gateway.reachable
      phase := .idle } := by
  have list := seeding.fetched services loaded fetched
  have asks (failed : loaded = false) : u.full = last.isNone :=
    seeding.asks fun _ here => by simp [fetched, failed] at here
  have step : Step build u .merge _ := .merged fetched
  refine ⟨seeding.toListed.step step, by rintro _ ⟨⟩, fun _ => ?_, fun full => ?_,
    fun _ => list ▸ exhausted_merge⟩
  · dsimp only
    cases full : u.full with
    | true =>
        -- nobody has come in between, so that the datastore is reachable if it has been loaded
        obtain ⟨-, -, reachable⟩ := seeding.young full
        rw [reachable services loaded fetched]
        cases loaded with
        | true => simpa using seeding.loads services fetched
        | false => simpa [full] using asks rfl
    | false =>
        cases loaded with
        | true => simpa using seeding.loads services fetched
        | false => simpa [full] using asks rfl
  · simp only [Bool.and_eq_true, Bool.not_eq_true'] at full
    obtain ⟨empty, untold, reachable⟩ := seeding.young full.1
    have failed : loaded = false := (reachable services loaded fetched).symm.trans full.2
    have none : last = none := by simpa [full.1] using (asks failed).symm
    refine ⟨?_, untold, by rintro _ _ ⟨⟩⟩
    rw [list, none, empty, full.2]
    rfl

/-- The step lemma: only a load changes the list, only a merge brings services, and the status is
asked for until both have been done. -/
theorem Seeding.step {last : Option (List Service)} {told : List Event} {d : Deed}
    (seeding : Seeding build last told u) (done : u.act? build d = some u')
    (discreet : Moment.Discreet ⟨u, d, u'⟩) (only : ∀ e ∈ d.committed?, e ∈ told) :
    Seeding build ((⟨u, d, u'⟩ : Moment).loaded?.or last)
      (told ++ (⟨u, d, u'⟩ : Moment).told) u' := by
  have reached {services : List Service} {loaded : Bool}
    (here : u'.phase = .fetched services loaded) :=
    reachable_of_fetched done here
  have listed := seeding.toListed.step (step_of_act? done)
  cases step_of_act? done with
  | argumentsFail idle same =>
      rw [Moment.told, List.append_nil]
      refine seeding.fail (by simp [idle]) same ?_
      rcases reached rfl with now | ⟨before, -⟩
      · exact now
      · cases idle.symm.trans before
  | servicesFail halfway same =>
      rw [Moment.told, List.append_nil]
      refine seeding.fail (by simp [halfway]) same ?_
      rcases reached rfl with now | ⟨before, -⟩
      · exact now
      · cases halfway.symm.trans before
  | argumentsCome idle same =>
      have waiting : ∀ services, u.phase ≠ .fetched services true := by simp [idle]
      rw [Moment.told, List.append_nil]
      refine ⟨listed, by rintro _ ⟨⟩,
        fun _ => seeding.asks waiting, fun full => ?_, fun _ => seeding.exhausted waiting⟩
      obtain ⟨empty, untold, -⟩ := seeding.young full
      exact ⟨empty, untold, by rintro _ _ ⟨⟩⟩
  | servicesCome halfway selected list cached =>
      rw [Moment.told, List.append_nil]
      refine ⟨listed, fun _ _ => rfl,
        fun waiting => absurd rfl (waiting _), fun full => ?_,
        fun waiting => absurd rfl (waiting _)⟩
      obtain ⟨empty, untold, -⟩ := seeding.young full
      refine ⟨empty, untold, fun services loaded here => ?_⟩
      rcases reached here with now | ⟨before, -⟩
      · exact now
      · cases halfway.symm.trans before
  | merged fetched =>
      rw [Moment.told, List.append_nil]
      exact seeding.merge fetched
  | recorded allowed =>
      refine ⟨listed, seeding.loads, seeding.asks, fun full => ?_,
        seeding.exhausted⟩
      obtain ⟨empty, -⟩ := seeding.young full
      rw [empty] at allowed
      cases allowed
  | committed commit same =>
      refine ⟨listed, seeding.loads, seeding.asks, fun full => ?_,
        seeding.exhausted⟩
      obtain ⟨-, untold, -⟩ := seeding.young full
      have told := only _ rfl
      rw [untold] at told
      cases told
  | others =>
      rw [Moment.told, List.append_nil]
      refine ⟨listed, seeding.loads, seeding.asks, fun full => ?_, seeding.exhausted⟩
      obtain ⟨empty, untold, reachable⟩ := seeding.young full
      exact ⟨empty, untold, fun services loaded here =>
        (discreet rfl).2.trans (reachable services loaded here)⟩

/-! ### Whole runs -/

/-- So it stands after every run, with the list that was loaded last. -/
theorem Run.seeding {last : Option (List Service)} {told : List Event} (run : Run build u past u')
    (seeding : Seeding build last told u) (discreet : ∀ m ∈ past, m.Discreet)
    (only : OnlyTold told past) :
    ∃ told', Seeding build ((lastLoaded? past).or last) told' u' := by
  induction run generalizing last told with
  | rest => exact ⟨told, seeding⟩
  | @step u next u' d past done _ ih =>
      rw [List.forall_mem_cons] at discreet
      rw [lastLoaded?_cons, Option.or_assoc]
      exact ih (seeding.step done discreet.1 only.1) discreet.2 only.2

/-- Only a merge of a list that has been loaded brings a service, and that starts as the list
says. -/
theorem Seeding.brings {last : Option (List Service)} {told : List Event} {d : Deed}
    (seeding : Seeding build last told u) (done : u.act? build d = some u') {s : Service}
    {cell : Nat} (brings : Moment.Brings ⟨u, d, u'⟩ s cell) :
    d = .merge ∧ ∃ services e, u.phase = .fetched services true ∧ s ∈ services ∧
      u'.world.roster.entry? s.id = some e ∧ e.service = s ∧ e.cell = cell ∧
      u'.world.roster.live e = .ofService s := by
  obtain ⟨unknown, e, found, rfl, rfl⟩ := brings
  by_cases merge : d = .merge
  · subst merge
    cases step_of_act? done with
    | @merged services loaded fetched =>
        change Roster.entry? (u.world.roster.merge build services u.gateway.reachable).1 _ = _
          at found
        have ne : services ≠ [] := by
          rintro rfl
          cases reachable : u.gateway.reachable with
          | true =>
              rw [reachable] at found
              cases found
          | false =>
              rw [reachable] at found
              cases unknown.symm.trans found
        obtain ⟨mem, -, live⟩ := Roster.live_of_merge ne found unknown
        refine ⟨rfl, services, e, ?_, mem, found, rfl, rfl, live⟩
        cases loaded with
        | true => exact fetched
        | false =>
            have list := seeding.fetched services false fetched
            -- a list that stands in has been merged before
            have exhausted := seeding.exhausted fun _ here => by cases fetched.symm.trans here
            obtain ⟨t, chosen, settles⟩ := Roster.entry?_merge_cases ne found
            obtain ⟨inside, number, accepted⟩ := Roster.of_chosen?_eq_some chosen
            simp only [Roster.accepts, Bool.and_eq_true] at accepted
            rcases settles with ⟨before, -⟩ | ⟨-, built⟩
            · cases unknown.symm.trans before
            · rw [exhausted t (list ▸ inside) accepted.1 (number ▸ unknown)] at built
              cases built
  · have same := entries_of_act? done merge
    change u'.world.roster.entries.get? _ = _ at found
    rw [same] at found
    cases unknown.symm.trans found

def Deed.asks : Deed → Bool
  | .askArguments .. | .askServices .. => true
  | _ => false

theorem Seeding.full_of_asks {last : Option (List Service)} {told : List Event} {d : Deed}
    (seeding : Seeding build last told u) (done : u.act? build d = some u') (asks : d.asks = true) :
    u.full = last.isNone := by
  refine seeding.asks fun services here => ?_
  cases step_of_act? done with
  | argumentsFail idle | argumentsCome idle => cases here.symm.trans idle
  | servicesFail halfway | servicesCome halfway => cases here.symm.trans halfway
  | merged | recorded | committed | others => cases asks

section Seeds

variable {g : Gateway} {db : Database} {earlier later : List Moment} {m : Moment}

/-- How things stand before a deed. -/
theorem Run.seeding_before (run : Run build (.start g db) (earlier ++ m :: later) u')
    (unused : g.cache = []) (discreet : ∀ m' ∈ earlier ++ m :: later, m'.Discreet)
    (only : OnlyTold [] (earlier ++ m :: later)) :
    ∃ told, Seeding build (lastLoaded? earlier) told m.before := by
  obtain ⟨before, -, -⟩ := run.split
  obtain ⟨told, seeding⟩ := before.seeding (.start unused db)
    (fun m' mem => discreet m' (List.mem_append_left _ mem)) only.of_append
  rw [Option.or_none] at seeding
  exact ⟨told, seeding⟩

/-- The gateway is asked for the status of the services by each load until one has succeeded, and by
none after that. A service comes into the roster by the merge of a list that has just been loaded.
If that is the first one, it starts with the status that the datastore knew at the load, else as
unknown, and always with the version that the datastore knew. -/
theorem seeds_once (unused : g.cache = []) (regular : db.Regular)
    (run : Run build (.start g db) past u') (discreet : ∀ m ∈ past, m.Discreet)
    (only : OnlyTold [] past) :
    (∀ earlier m later, past = earlier ++ m :: later → m.deed.asks = true →
      m.before.full = (lastLoaded? earlier).isNone) ∧
    ∀ earlier m later s cell, past = earlier ++ m :: later → m.Brings s cell →
      m.deed = .merge ∧ ∃ before ask between services e flag version,
        earlier = before ++ ask :: between ∧ ask.loaded? = some services ∧ s ∈ services ∧
        (∀ m' ∈ between, m'.deed ≠ .merge) ∧
        ask.after.db.known? .up s.id = some flag ∧
        ask.after.db.known? .version s.id = some version ∧
        m.after.world.roster.entry? s.id = some e ∧ e.service = s ∧ e.cell = cell ∧
        m.after.world.roster.live e =
          ⟨if (lastLoaded? before).isNone then flag.knownStatus else .unknown,
            version.knownVersion⟩ := by
  constructor
  · rintro earlier m later rfl asks
    obtain ⟨told, seeding⟩ := run.seeding_before unused discreet only
    exact seeding.full_of_asks run.split.2.1 asks
  · rintro earlier m later s cell rfl brings
    obtain ⟨told, seeding⟩ := run.seeding_before unused discreet only
    obtain ⟨toMerge, merged, -⟩ := run.split
    obtain ⟨deed, services, e, fetched, mem, found, service, cell, live⟩ :=
      seeding.brings merged brings
    refine ⟨deed, ?_⟩
    rcases toMerge.exists_load fetched with ⟨idle, -⟩ | ⟨before, ask, between, rfl, loads, unmerged⟩
    · cases idle
    · obtain ⟨toAsk, asked, -⟩ := toMerge.split
      rw [List.append_assoc, List.cons_append] at run discreet only
      obtain ⟨told', seeding'⟩ := run.seeding_before unused discreet only
      have good : ask.before.db.Regular :=
        toAsk.regular regular fun m' inside => discreet m' (List.mem_append_left _ inside)
      obtain ⟨⟨arguments, halfway⟩, backs⟩ := backs_of_loads asked loads good
      have full : ask.before.full = (lastLoaded? before).isNone :=
        seeding'.asks fun _ here => by cases halfway.symm.trans here
      obtain ⟨flag, version, knownFlag, knownVersion, status, version'⟩ := backs s mem
      refine ⟨before, ask, between, services, e, flag, version, rfl, loads, mem,
        unmerged, knownFlag,
        knownVersion, found, service, cell, live.trans ?_⟩
      rw [Live.ofService, status, version', full]

end Seeds

/-! ### Two arrivals -/

def unsettled : Database := (Database.empty.migrate (fun _ => .none) 0 migrations).1

/-- After a refresh that fails a service that is known to be down comes in, is taken out of the
datastore, and comes in again. -/
def twoArrivals : List Deed :=
  [.askArguments Writer.broken Writer.broken, .merge] ++ refresh ++
    [.others true true unsettled] ++ refresh ++ [.others true true (sshService .down)] ++ refresh

/-- The status with which the service comes in. -/
def Moment.seed? (m : Moment) : Option Status :=
  match m.before.world.roster.entry? 1 with
  | some _ => none
  | none => (m.after.world.roster.entry? 1).map fun e => (m.after.world.roster.live e).status

theorem twoArrivals_seeds :
    ∃ past w, Run Roster.builtin (.start Writer.connected (sshService .down)) past w ∧
      (past.filter (·.deed.asks)).map (·.before.full) =
        [true, true, true, false, false, false, false] ∧
      past.filterMap Moment.seed? = [.down, .unknown] ∧
      ∀ m ∈ past, ∀ status ∈ m.seed?, m.deed = .merge ∧ ∃ before ask after,
        past = before ++ ask :: after ∧ ask.loaded?.isSome = true ∧
        status = if (lastLoaded? before).isNone then .down else .unknown := by
  obtain ⟨past, w, run, asked, seeds, only, others, number, down⟩ := exists_run Roster.builtin
    (.start Writer.connected (sshService .down)) twoArrivals
    (fun past w => (past.filter (·.deed.asks)).map (·.before.full) =
        [true, true, true, false, false, false, false] ∧
      past.filterMap Moment.seed? = [.down, .unknown] ∧ OnlyTold [] past ∧
      (∀ m ∈ past, m.deed.byOthers = true →
        (m.after.db = unsettled ∨ m.after.db = sshService .down) ∧
        m.after.gateway.reachable = m.before.gateway.reachable) ∧
      (∀ m ∈ past, ∀ e ∈ m.after.world.roster.entry? 1, e.service.id = 1) ∧
      ∀ m ∈ past, ∀ flag ∈ m.after.db.known? .up 1, flag.knownStatus = .down)
    (by decide +kernel)
  have discreet : ∀ m ∈ past, m.Discreet := by
    intro m mem foreign
    obtain ⟨db | db, same⟩ := others m mem foreign
    · exact ⟨db ▸ Database.Regular.empty.migrate, same⟩
    · exact ⟨db ▸ sshService_regular .down, same⟩
  refine ⟨past, w, run, asked, seeds, ?_⟩
  intro m mem status seed
  obtain ⟨earlier, later, rfl⟩ := List.append_of_mem mem
  obtain ⟨-, arrivals⟩ := seeds_once rfl (sshService_regular .down) run discreet only
  simp only [Moment.seed?, Option.mem_def] at seed
  split at seed
  · cases seed
  · rename_i unknown
    obtain ⟨e, found, rfl⟩ := Option.map_eq_some_iff.mp seed
    have one := number m mem e found
    obtain ⟨merge, before, ask, between, services, e', flag, version, rfl, loads, -, -,
      knows, -, found',
      -, -, live⟩ := arrivals earlier m later e.service e.cell rfl
        ⟨one ▸ unknown, e, one ▸ found, rfl, rfl⟩
    rw [one] at knows found'
    cases found.symm.trans found'
    refine ⟨merge, before, ask, between ++ m :: later, by simp, by simp [loads], ?_⟩
    rw [live, down ask (by simp) flag knows]

end Vigil.Upkeep
