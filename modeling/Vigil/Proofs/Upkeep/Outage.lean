import Vigil.Proofs.Roster.Reports
import Vigil.Proofs.Roster.Settled
import Vigil.Proofs.Upkeep.Run
import Vigil.Proofs.Writer.Delivery

/-!
Outages of the datastore. While no list of services can be loaded, the last one that could be stands
in for it, and to merge that list once more changes nothing: whatever commits make of the connection
in the meantime, also between the attempt to load and the merge.

Main statement: `Upkeep.outage_keeps_roster`.
-/

namespace Vigil.Upkeep

open Store

variable {build : Service → Option Checker} {u u' : Upkeep} {past : List Moment}

/-! ### The list that stands in -/

/-- What the entries are after the list that was loaded last. -/
def Follows (build : Service → Option Checker) (r : Roster) : Option (List Service) → Prop
  | none => r.entries = .empty
  | some services => services ≠ [] → r.Settled build services

theorem Follows.of_entries {r r' : Roster} {last : Option (List Service)}
    (follows : Follows build r last) (same : r'.entries = r.entries) : Follows build r' last := by
  cases last with
  | none => exact same.trans follows
  | some services =>
      intro ne
      exact (follows ne).of_entries same

/-- A merge of the list that was loaded last, which is empty before the first. -/
theorem Follows.merge {r : Roster} {last : Option (List Service)} (follows : Follows build r last)
    (reachable : Bool) :
    (r.merge build (last.getD []) reachable).1 = r ∨
      last = some [] ∧ (r.merge build (last.getD []) reachable).1 =
        { r with entries := .empty } := by
  cases last with
  | none =>
      refine .inl ?_
      cases reachable with
      | false => rfl
      | true =>
          change { r with entries := .empty } = r
          rw [← follows]
  | some services =>
      by_cases ne : services = []
      · subst ne
        cases reachable with
        | false => exact .inl rfl
        | true => exact .inr ⟨rfl, rfl⟩
      · exact .inl ((follows ne).merge_eq ne)

/-- What is known of the list that was loaded last: it stands in for others, and the entries follow
it unless it is still to be merged. -/
structure Steered (build : Service → Option Checker) (last : Option (List Service)) (u : Upkeep) :
    Prop extends
    Listed last u where
  follows : Follows build u.world.roster last ∨
    ∃ services, u.phase = .fetched services true ∧ last = some services

theorem Steered.start {g : Gateway} (unused : g.cache = []) (db : Database) :
    Steered build none (start g db) :=
  ⟨.start unused db, .inl rfl⟩

/-- The step lemma: a load replaces the list that is known of, a merge makes the entries follow it,
and everything else leaves both. -/
theorem Steered.step {last : Option (List Service)} (steered : Steered build last u)
    (steady : Roster.Steady build) {d : Deed} (step : Step build u d u') :
    Steered build ((⟨u, d, u'⟩ : Moment).loaded?.or last) u' := by
  -- Until a new list comes, the entries follow the last one.
  have follows (old : ∀ services, u.phase ≠ .fetched services true) :
      Follows build u.world.roster last := by
    rcases steered.follows with follows | ⟨services, here, -⟩
    · exact follows
    · exact absurd here (old services)
  refine ⟨steered.toListed.step step, ?_⟩
  cases step with
  | argumentsFail idle | argumentsCome idle => exact .inl (follows (by simp [idle]))
  | servicesFail halfway => exact .inl (follows (by simp [halfway]))
  | servicesCome => exact .inr ⟨_, rfl, rfl⟩
  | @merged services loaded fetched =>
      have list : services = last.getD [] := steered.fetched services loaded fetched
      refine .inl ?_
      change Follows build (u.world.roster.merge build services u.gateway.reachable).1 last
      rcases steered.follows with follows | ⟨services', here, new⟩
      · rcases follows.merge u.gateway.reachable with same | ⟨new, -⟩
        · rw [list, same]
          exact follows
        · subst new
          exact fun ne => absurd rfl ne
      · subst new
        subst list
        intro ne
        exact Roster.settled_merge steady ne
  | recorded => exact steered.follows.imp_left fun follows => follows.of_entries rfl
  | committed | others => exact steered.follows

/-! ### Whole runs -/

theorem Run.steered {last : Option (List Service)} (run : Run build u past u')
    (steady : Roster.Steady build) (steered : Steered build last u) :
    Steered build ((lastLoaded? past).or last) u' := by
  induction run generalizing last with
  | rest => exact steered
  | @step u next u' d past done _ ih =>
      have after := ih (steered.step steady (step_of_act? done))
      rwa [lastLoaded?_cons, Option.or_assoc]

/-- Only merges change the entries. -/
theorem entries_of_act? {d : Deed} (done : u.act? build d = some u') (other : d ≠ .merge) :
    u'.world.roster.entries = u.world.roster.entries := by
  cases step_of_act? done with
  | merged => exact absurd rfl other
  | argumentsFail | argumentsCome | servicesFail | servicesCome | recorded | committed | others =>
      rfl

/-- A merge after an attempt to load that has failed leaves the roster as it is, entry by entry, but
for that after a list without services the roster may be cleared; and nothing but a merge changes
the entries. -/
theorem outage_keeps_roster {g : Gateway} {db : Database} (steady : Roster.Steady build)
    (unused : g.cache = []) (run : Run build (.start g db) past u') :
    (∀ m ∈ past, m.deed ≠ .merge →
      m.after.world.roster.entries = m.before.world.roster.entries) ∧
    ∀ earlier m later services, past = earlier ++ m :: later → m.deed = .merge →
      m.before.phase = .fetched services false →
      m.after.world.roster = m.before.world.roster ∨
        lastLoaded? earlier = some [] ∧
          m.after.world.roster = { m.before.world.roster with entries := .empty } := by
  constructor
  · intro m mem other
    obtain ⟨earlier, later, rfl⟩ := List.append_of_mem mem
    exact entries_of_act? run.split.2.1 other
  · rintro earlier m later services rfl merge failed
    obtain ⟨before, done, -⟩ := run.split
    have steered := before.steered steady (.start unused db)
    rw [Option.or_none] at steered
    have follows : Follows build m.before.world.roster (lastLoaded? earlier) := by
      rcases steered.follows with follows | ⟨services', here, -⟩
      · exact follows
      · cases failed.symm.trans here
    have list : services = (lastLoaded? earlier).getD [] := steered.fetched services false failed
    have after : m.after.world.roster =
        (m.before.world.roster.merge build services m.before.gateway.reachable).1 := by
      rw [merge] at done
      simp only [act?, failed] at done
      exact congrArg (fun u => u.world.roster) (Option.some.inj done).symm
    rw [after, list]
    exact follows.merge m.before.gateway.reachable

/-! ### One outage -/

/-- A datastore with one service that is checked over SSH, with what is known of it. -/
def sshService? (s : Status) : Option Database := do
  let db := (Database.empty.migrate (fun _ => .none) 0 migrations).1
  let (db, _) ← db.insert? netboxLayout.name
    [("netboxid", .integer 1), ("ip", .text "192.0.2.1"), ("sysname", .text "node")]
  let (db, _) ← db.insert? serviceLayout.name
    [("serviceid", .integer 1), ("netboxid", .integer 1), ("handler", .text "ssh"),
      ("up", .text s.flag)]
  return db

def sshService (s : Status) : Database := (sshService? s).getD .empty

def refresh : List Deed := [.askArguments .sound .sound, .askServices .sound .sound, .merge]

/-- The services cannot be loaded, and then a commit reaches the datastore before the merge. -/
def shortOutage : List Deed :=
  [.askArguments .sound .sound, .askServices Writer.broken Writer.broken,
    .commit (Writer.statusEvent .down) .sound .sound]

theorem shortOutage_keeps_roster :
    ∃ earlier m u',
      Run Roster.builtin (.start Writer.connected (sshService .up)) (earlier ++ [m]) u' ∧
      m.deed = .merge ∧ m.before.phase = .fetched m.before.gateway.cache false ∧
      m.before.gateway.reachable = true ∧ m.before.world.roster.entries.size = 1 ∧
      m.after.world.roster = m.before.world.roster := by
  obtain ⟨earlier, u, run, failed, reachable, one, last⟩ := exists_run Roster.builtin
    (.start Writer.connected (sshService .up)) (refresh ++ shortOutage)
    (fun past u => u.phase = .fetched u.gateway.cache false ∧ u.gateway.reachable = true ∧
      u.world.roster.entries.size = 1 ∧ lastLoaded? past ≠ some [])
    (by decide +kernel)
  obtain ⟨next, done⟩ : ∃ next, u.act? Roster.builtin .merge = some next := by simp [act?, failed]
  have whole := run.append (.step done (.rest next))
  obtain ⟨-, keeps⟩ :=
    outage_keeps_roster (Checker.Registry.steady_builtin.builder default) rfl whole
  have same := keeps earlier ⟨u, .merge, next⟩ [] u.gateway.cache rfl rfl failed
  exact ⟨earlier, ⟨u, .merge, next⟩, next, whole, rfl, failed, reachable, one,
    same.resolve_right fun cleared => last cleared.1⟩

end Vigil.Upkeep
