import Mathlib.Data.List.Basic
import Mathlib.Data.Nat.ModEq
import Vigil.Proofs.Watch.Rehearsed
import Vigil.Proofs.Watch.Round

/-!
Rounds on time. Refreshes may take as long as they like, and there may be more services than can be
sent within an interval: all the same rounds begin and end at multiples of the interval.

Main statements: `Watch.Run.onGrid` and `Watch.rounds_keep_to_grid`, that is so in every run;
`Watch.fetches_on_grid`, and in every rehearsal.
-/

namespace Vigil

open Vigil.Clock

namespace Watch

variable {w w' : Watch} {n : Nat}

/-! ### The grid -/

section Grid

variable {d : Deed} {acts : List Act} {goal : Goal} {began t₀ : Nat}

/-- The time at which a round began or will end is a multiple of the interval after some time. -/
def OnGrid (n t₀ : Nat) (w : Watch) : Prop :=
  match w.leader with
  | .fetching goal began _ => goal ≠ .refresh → began ≤ w.now ∧ began ≡ t₀ [MOD n]
  | .pacing _ began rest _ _ => rest ≠ [] ∧ began ≤ w.now ∧ began ≡ t₀ [MOD n]
  | .waiting _ due => due ≡ t₀ [MOD n]
  | _ => True

/-- Time alone takes nobody off the grid. -/
theorem onGrid_congr {w w' : Watch} (leader : w'.leader = w.leader) (later : w.now ≤ w'.now)
    (grid : OnGrid n t₀ w) : OnGrid n t₀ w' := by
  unfold OnGrid at grid ⊢
  rw [leader]
  split
  · rename_i here
    rw [here] at grid
    intro rounds
    exact ⟨Nat.le_trans (grid rounds).1 later, (grid rounds).2⟩
  · rename_i here
    rw [here] at grid
    exact ⟨grid.1, Nat.le_trans grid.2.1 later, grid.2.2⟩
  · rename_i here
    rw [here] at grid
    exact grid
  · trivial

theorem onGrid_wait (interval : w.policy.interval = .ofMillis n) (pos : 0 < n) (day : n ≤ 86400000)
    (past : began ≤ w.now) (here : began ≡ t₀ [MOD n]) : OnGrid n t₀ (w.wait goal began) := by
  rw [wait_eq interval pos day goal past]
  change began + n * _ ≡ t₀ [MOD n]
  exact (Nat.add_mul_mod_self_left began n _).trans here

theorem onGrid_send (interval : w.policy.interval = .ofMillis n) (pos : 0 < n) (day : n ≤ 86400000)
    {pause : Duration} {m : Monitored} {rest : List Monitored} (past : began ≤ w.now)
    (here : began ≡ t₀ [MOD n]) : OnGrid n t₀ (w.send goal began pause m rest).1 := by
  cases rest with
  | nil => exact onGrid_wait (w := { w with pool := w.pool.enqueue m }) interval pos day past here
  | cons m' rest => exact ⟨List.cons_ne_nil m' rest, past, here⟩

theorem onGrid_dispatch (interval : w.policy.interval = .ofMillis n) (pos : 0 < n)
    (day : n ≤ 86400000) (past : began ≤ w.now) (here : began ≡ t₀ [MOD n]) :
    OnGrid n t₀ (w.dispatch goal began).1 := by
  rcases dispatch_cases w goal began with ⟨-, same⟩ | ⟨pause, m, rest, -, same⟩
  · rw [same]
    exact onGrid_wait interval pos day past here
  · rw [same]
    exact onGrid_send interval pos day past here

theorem onGrid_endRound {more : Bool} (here : more = true → w.now ≡ t₀ [MOD n]) :
    OnGrid n t₀ (w.endRound goal more).1 := by
  cases goal with
  | run =>
      cases more with
      | true => exact fun _ => ⟨Nat.le_refl _, here rfl⟩
      | false => trivial
  | refresh | round | terminate | close => trivial

theorem onGrid_endPool : OnGrid n t₀ (w.endPool goal) := by
  cases goal with
  | run | refresh | round | terminate | close => trivial

def Deed.callsRounds : Deed → Bool
  | .call .round | .call .run => true
  | _ => false

theorem Deed.callsRounds_of_goesOn {d : Deed} (goesOn : d.goesOn = true) :
    d.callsRounds = false := by
  cases d with
  | move | tick => rfl
  | call | restage | arm => cases goesOn

/-- If the leader is set to rounds, it is at a time on the grid. -/
def Deed.OnGrid (n t₀ now : Nat) (d : Deed) : Prop := d.callsRounds = true → now ≡ t₀ [MOD n]

instance (n t₀ now : Nat) (d : Deed) : Decidable (d.OnGrid n t₀ now) :=
  inferInstanceAs (Decidable (d.callsRounds = true → now ≡ t₀ [MOD n]))

/-- The step lemma of the grid: a round that ends is followed by one that begins at the same moment,
on the grid. -/
theorem onGrid_of_act? (interval : w.policy.interval = .ofMillis n) (pos : 0 < n)
    (day : n ≤ 86400000) (early : w.OnTime) (call : d.OnGrid n t₀ w.now) (grid : w.OnGrid n t₀)
    (done : w.act? d = some (w', acts)) : w'.OnGrid n t₀ := by
  rcases act_cases done with aside | ⟨goal, rfl, -, rfl, rfl⟩ | lead
  · exact onGrid_congr aside.leader aside.later grid
  · cases goal with
    | refresh => exact fun rounds => absurd rfl rounds
    | round | run => exact fun _ => ⟨Nat.le_refl _, call rfl⟩
    | terminate | close => trivial
  · cases lead with
    | awakes | refreshes | drains | aborts | hasAborted | stops => trivial
    | merges leader rounds =>
        rw [OnGrid, leader] at grid
        obtain ⟨past, here⟩ := grid rounds
        exact onGrid_dispatch interval pos day past here
    | stopsFetching | stopsSending | stopsWaiting => exact onGrid_endRound nofun
    | sends leader =>
        rw [OnGrid, leader] at grid
        obtain ⟨-, past, here⟩ := grid
        exact onGrid_send interval pos day past here
    | hasSent leader =>
        rw [OnGrid, leader] at grid
        exact absurd rfl grid.1
    | @ends goal due leader come =>
        have now : w.now = due := early.now_eq (by rw [due?, leader]) come
        rw [OnGrid, leader] at grid
        exact onGrid_endRound fun _ => now ▸ grid
    | hasRecorded | dismisses => exact onGrid_endPool

/-- If rounds are called for at times on the grid, they all begin on the grid. -/
theorem Run.onGrid {past : List Moment} (interval : w.policy.interval = .ofMillis n) (pos : 0 < n)
    (day : n ≤ 86400000) (run : Run w past w') (early : w.OnTime) (grid : w.OnGrid n t₀)
    (calls : ∀ m ∈ past, m.deed.OnGrid n t₀ m.before.now) :
    w'.OnGrid n t₀ ∧ ∀ m ∈ past, m.begins = true → m.before.now ≡ t₀ [MOD n] := by
  induction run with
  | rest => exact ⟨grid, fun _ mem => nomatch mem⟩
  | @step w next w' d acts past done _ ih =>
      rw [List.forall_mem_cons] at calls
      have keeps := keeps_of_act? done
      have grid' := onGrid_of_act? interval pos day early calls.1 grid done
      obtain ⟨last, begin'⟩ := ih (keeps.policy ▸ interval) (keeps.onTime early) grid' calls.2
      refine ⟨last, List.forall_mem_cons.mpr ⟨fun begins => ?_, begin'⟩⟩
      obtain ⟨goal, rounds, -, leader⟩ := fetching_of_begins (m := ⟨w, d, acts, next⟩) done begins
      rw [OnGrid, leader] at grid'
      exact (grid' rounds).2

end Grid

/-- In a rehearsal of rounds until the end, whatever happens, all fetches begin on the grid. -/
theorem fetches_on_grid {r : Rehearsal} (interval : r.watch.policy.interval = .ofMillis n)
    (pos : 0 < n) (day : n ≤ 86400000) (ready : r.Ready) :
    ∃ log, r.runToEnd.history = r.history ++ log ∧
      ∀ f ∈ Rehearsal.fetches log, f.1 ≡ r.watch.now [MOD n] := by
  obtain ⟨⟨past, run, goes, log⟩, -⟩ := Rehearsal.run_of_lead ready .run (r.lead_eq .run)
  refine ⟨_, log, fun f mem => ?_⟩
  have early : r.watch.OnTime := onTime_of_none (by rw [due?, ready.idle])
  have grid : r.watch.OnGrid n r.watch.now := by
    rw [OnGrid, ready.idle]
    trivial
  have calls : ∀ m ∈ Rehearsal.callOf r.watch .run :: past,
    m.deed.OnGrid n r.watch.now m.before.now := by
    refine List.forall_mem_cons.mpr ⟨fun _ => Nat.ModEq.refl _, fun m mem calls => ?_⟩
    rw [Deed.callsRounds_of_goesOn (goes m mem)] at calls
    cases calls
  obtain ⟨-, begins⟩ := run.onGrid interval pos day early grid calls
  obtain ⟨⟨now, act⟩, told, here⟩ := List.mem_filterMap.mp mem
  obtain ⟨m, inside, told⟩ := List.mem_flatMap.mp told
  obtain ⟨act, acts, same⟩ := List.mem_map.mp told
  cases same
  cases act with
  | fetched full =>
      cases here
      obtain ⟨earlier, later, whole⟩ := List.append_of_mem inside
      rw [whole] at run
      obtain ⟨goal, leader, now, cause⟩ := fetching_of_act? run.split.2.1 acts
      have rounds : goal = .run := by
        rcases cause with call | rounds
        · rcases List.mem_cons.mp inside with rfl | mem
          · cases call
            rfl
          · cases call ▸ goes m mem
        · exact rounds
      change m.after.now ≡ r.watch.now [MOD n]
      rw [now]
      refine begins m inside ?_
      simp only [Moment.begins, leader, rounds, Bool.and_eq_true, List.any_eq_true]
      exact ⟨rfl, .fetched full, acts, rfl⟩
  | _ => cases here

/-- In the middle of a round that is not cancelled, the round can go on to its end. -/
theorem finishes_of_inRound {t₀ : Nat} (inRound : w.leader.inRound = true) (early : w.OnTime)
    (grid : w.OnGrid n t₀) (going : w.cancelled = false) : Finishes w := by
  cases leader : w.leader with
  | fetching goal began due =>
      rw [leader] at inRound
      exact finishes_of_fetching (of_decide_eq_true inRound) leader early going
  | pacing goal began rest pause due =>
      rw [OnGrid, leader] at grid
      obtain ⟨m, more, rfl⟩ := List.exists_cons_of_ne_nil grid.1
      exact finishes_of_pacing leader early going (finishes_of_send going)
  | waiting goal due => exact finishes_of_waiting leader early going
  | idle | sleeping | draining | aborting | recording | closing =>
      rw [leader] at inRound
      cases inRound

/-- Rounds for which the leader is called at times on the grid all begin on the grid. In each round
that is not cancelled, the services are fetched and merged into the roster, each of them is sent to
the pool once, and the round ends at the first multiple of the interval after the last has been
sent. Until then the leader waits for nothing but the clock, and the round can go on to its end.
What is sent goes through the queue of the pool, and no arithmetic fails. -/
theorem rounds_keep_to_grid {t₀ : Nat} {past : List Moment}
    (interval : w.policy.interval = .ofMillis n) (pos : 0 < n) (day : n ≤ 86400000)
    (idle : w.leader = .idle) (run : Run w past w')
    (calls : ∀ m ∈ past, m.deed.OnGrid n t₀ m.before.now) :
    (∀ m ∈ past, m.begins = true → m.before.now ≡ t₀ [MOD n]) ∧
    (∀ earlier first inside last later, past = earlier ++ first :: (inside ++ last :: later) →
      first.begins = true → Within inside → last.ends = true →
      ∃ before m after k, inside = before ++ m :: after ∧ sentIn before = [] ∧
        m.before.now = first.before.now + first.before.stage.fetchDelays.headD 0 ∧
        m.after.roster = (m.before.roster.merge w.policy.build m.before.stage.services
          m.before.stage.reachable).1 ∧
        (sentIn (m :: after)).Perm m.after.roster.list ∧
        last.before.now = first.before.now + k * n ∧
        lastSent m.before.now (m :: after) < last.before.now ∧
        last.before.now ≤ lastSent m.before.now (m :: after) + n) ∧
    (∀ earlier first inside, past = earlier ++ first :: inside → first.begins = true →
      Within inside →
      (∃ due, w'.due? .leader = some due ∧ w'.now ≤ due ∧
        (w'.now = due → (w'.move .leader).isSome)) ∧
      (w'.cancelled = false → Finishes w')) ∧
    w.pool.jobs ++ sentIn past = tookIn past ++ w'.pool.jobs ∧
    ∀ elapsed, Round.rest? w.policy.interval.nanos elapsed =
        some (Round.rest w.policy.interval.nanos elapsed) ∧
      ∀ count, 0 < count → Round.pause? w.policy.interval.nanos elapsed count =
        some (Round.pause w.policy.interval.nanos elapsed count) := by
  have early : w.OnTime := onTime_of_none (by rw [due?, idle])
  have grid : w.OnGrid n t₀ := by
    rw [OnGrid, idle]
    trivial
  obtain ⟨finishes, starts⟩ := run.onGrid interval pos day early grid calls
  refine ⟨starts, ?_, ?_, run.jobs, ?_⟩
  · rintro earlier first inside last later rfl begins within ends
    obtain ⟨round, policy, early₀, goal, rounds, now, leader⟩ := run.round_of_begins early begins
    obtain ⟨before, m, after, rfl, none, fetched, merged, sent, later', ended⟩ :=
      round.ends_of_fetching (policy ▸ interval) pos day rounds early₀
        (Nat.le_of_eq now.symm) leader
        within (List.contains_iff_mem.mp ends)
    have past : first.before.now ≤ lastSent m.before.now (m :: after) := by omega
    have beyond := Round.lt_next pos (lastSent m.before.now (m :: after) - first.before.now)
    have reach := Round.next_le n (lastSent m.before.now (m :: after) - first.before.now)
    have multiple : last.before.now = first.before.now +
        ((lastSent m.before.now (m :: after) - first.before.now) / n + 1) * n := by
      rw [Nat.mul_comm]
      exact ended
    change last.before.now = _ at ended
    refine ⟨before, m, after, _, rfl, none, fetched, policy ▸ merged, sent, multiple, ?_, ?_⟩
    · omega
    · omega
  · rintro earlier first inside rfl begins within
    obtain ⟨before₀, start, after₀⟩ := run.split
    obtain ⟨goal, rounds, -, leader⟩ := fetching_of_begins start begins
    obtain ⟨-, -, early'⟩ := run.keeps early
    have inRound := after₀.inRound within (by rw [leader]; exact decide_eq_true rounds)
    exact ⟨waits_of_inRound inRound early', finishes_of_inRound inRound early' finishes⟩
  · intro elapsed
    exact ⟨Round.rest?_eq _ elapsed, fun count positive => Round.pause?_eq _ elapsed positive⟩

/-! ### A slow refresh -/

/-- Where a schedule begins with a round of a kind, there is a run with such a round. -/
theorem exists_round (w : Watch) (deeds : List Deed) (length : Nat)
    (q : Moment → List Moment → Moment → List Moment → Prop)
    [∀ first inside last later, Decidable (q first inside last later)]
    (happens : (w.play? deeds).any (fun r => r.1.head?.any fun first =>
      (r.1.tail.drop length).head?.any fun last =>
        q first (r.1.tail.take length) last (r.1.tail.drop length).tail) = true) :
    ∃ first inside last later w', Run w (first :: (inside ++ last :: later)) w' ∧
      q first inside last later := by
  obtain ⟨⟨past, w'⟩, played, begins⟩ := (Option.any_eq_true _ _).mp happens
  obtain ⟨first, head, ends⟩ := (Option.any_eq_true _ _).mp begins
  obtain ⟨last, here, check⟩ := (Option.any_eq_true _ _).mp ends
  refine ⟨first, past.tail.take length, last, (past.tail.drop length).tail, w', ?_,
    of_decide_eq_true check⟩
  rw [List.cons_head?_tail here, List.take_append_drop, List.cons_head?_tail head]
  exact run_of_play? deeds played

def sshService (id : Int) : Service := { (default : Service) with
  id
  kind := "ssh"
  active := true }

/-- Two services are to be checked every minute, and the first refresh takes longer than that. -/
def slowStart : Watch :=
  .ofParts ⟨Checker.Registry.builtin.builder default, .ofMillis 60000, .ofMillis 5000⟩
    ⟨[sshService 1, sshService 2], true, [75000], .empty, []⟩ default default

/-- Two rounds, the first of which takes two intervals. -/
def twoRounds : List Deed :=
  [.call .run, .tick 75000, .move .leader, .tick 90000, .move .leader, .tick 120000, .move .leader,
    .move .leader, .tick 135000, .move .leader, .tick 180000, .move .leader]

theorem slowRefresh_keeps_to_grid :
    ∃ first inside last later w', Run slowStart (first :: (inside ++ last :: later)) w' ∧
      first.begins = true ∧ Within inside ∧ last.ends = true ∧ last.begins = true ∧
      (sentIn inside).length = 2 ∧ 60000 < last.before.now ∧ last.before.now ≡ 0 [MOD 60000] ∧
      ∃ k, last.before.now = first.before.now + k * 60000 := by
  obtain ⟨first, inside, last, later, w', run, begins, within, ends, next, two, slow, calls⟩ :=
    exists_round slowStart twoRounds 5
      (fun first inside last later => first.begins = true ∧ Within inside ∧ last.ends = true ∧
        last.begins = true ∧ (sentIn inside).length = 2 ∧ 60000 < last.before.now ∧
        ∀ m ∈ first :: (inside ++ last :: later), m.deed.OnGrid 60000 0 m.before.now)
      (by decide +kernel)
  obtain ⟨grid, rounds, -⟩ :=
    rounds_keep_to_grid (n := 60000) rfl (by decide) (by decide) rfl run calls
  obtain ⟨-, -, -, k, -, -, -, -, -, multiple, -⟩ :=
    rounds [] first inside last later rfl begins within ends
  exact ⟨first, inside, last, later, w', run, begins, within, ends, next, two, slow,
    grid last (by simp) next, k, multiple⟩

end Watch

end Vigil
