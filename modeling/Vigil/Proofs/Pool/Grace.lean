import Vigil.Proofs.Pool.Courses
import Vigil.Proofs.Watch.Rehearsed

/-!
How a pool comes to its end, on a clock that moves only when every task waits for it. Once the
leader has stopped the pool no service is taken; checks that are running are dropped just when the
grace is over, and only those for which it was too short; and when the leader goes on, every verdict
has been recorded.

Main statement: `Shift.accounts`.
-/

namespace Vigil

open Clock

theorem Clock.Duration.millisUp_pos {d : Duration} (pos : 0 < d.nanos) : 0 < d.millisUp :=
  Nat.div_pos (by omega) (by decide)

namespace Shift

open Watch (Act Labor Recording Lead)

variable {w w' : Watch} {d : Deed} {acts : List Act} {i : Nat}

/-! ### The clock -/

/-- The clock moves only when every task waits, and not beyond the moment for which one of them
does. -/
def Moment.onClock (m : Moment) : Bool :=
  match m.deed with
  | .watch (.tick now) => (.leader :: m.before.others).all fun t =>
      (m.before.move t).isNone && (m.before.due? t).all (now ≤ ·)
  | _ => true

/-- Every worker waits, and so does the recorder. -/
theorem waits_of_onClock {m : Moment} {now : Nat} (clock : m.onClock = true)
    (tick : m.deed = .watch (.tick now)) :
    (∀ i, m.before.moveWorker i = none ∧
      ∀ due, (m.before.pool.worker i).due? = some due → now ≤ due) ∧
      m.before.moveRecorder = none := by
  simp only [Moment.onClock, tick, List.all_eq_true, Bool.and_eq_true, Option.isNone_iff_eq_none]
    at clock
  have others {t : Watch.Task} (mem : t ∈ m.before.others) := clock t (List.mem_cons_of_mem _ mem)
  constructor
  · intro i
    by_cases inside : i < m.before.pool.workers.length
    · have waits := others (t := .worker i) (by simp [Watch.others, inside])
      refine ⟨waits.1, fun due here => ?_⟩
      have early := waits.2
      rw [Watch.due?, here] at early
      exact of_decide_eq_true early
    · have isOver := Pool.worker_of_le (Nat.le_of_not_lt inside)
      rw [Watch.moveWorker, isOver]
      exact ⟨rfl, fun due waits => by cases waits⟩
  · exact (others (t := .recorder) (by simp [Watch.others])).1

/-! ### Workers and the clock -/

/-- A worker waits for the moment for which it has waited, or for one that is yet to come. -/
theorem due_of_labor (labor : Labor w i w' acts) {j due : Nat}
    (waits : (w'.pool.worker j).due? = some due) :
    (w.pool.worker j).due? = some due ∨ w.now ≤ due := by
  have inside := labor.inside
  have sets {s : Worker} (late : ∀ due, s.due? = some due → w.now ≤ due)
      (waits : ((w.pool.set i s).worker j).due? = some due) :
      (w.pool.worker j).due? = some due ∨ w.now ≤ due := by
    rw [Pool.worker_set _ inside] at waits
    split at waits
    · exact .inr (late due waits)
    · exact .inl waits
  cases labor with
  | seeks => exact .inl (Watch.due?_of_seek waits)
  | leaves => exact sets (s := .finished) nofun (Watch.due?_of_yieldTurn waits)
  | @takes job rest =>
      have waits := Watch.due?_of_yieldTurn waits
      exact sets (s := .holding job) nofun waits
  | begins | repeats =>
      refine sets (fun due waits => ?_) waits
      cases waits
      exact Nat.le_add_right _ _
  | pauses =>
      refine sets (fun due waits => ?_) waits
      cases waits
      exact Nat.le_add_right _ _
  | concludes => exact sets (s := .seeking) nofun waits
  | drops => exact sets (s := .aborted) nofun waits

/-- Once the pool has been stopped, a worker that holds a service has held it before. -/
theorem holding_of_labor (labor : Labor w i w' acts) (lined : w.pool.IsLined)
    (stopped : w.pool.stopped = true) {j : Nat} {job : Monitored}
    (holds : w'.pool.worker j = .holding job) : w.pool.worker j = .holding job := by
  have inside := labor.inside
  by_cases mine : j = i
  · subst mine
    have sets {s : Worker} (holds : (w.pool.set j s).worker j = .holding job)
        (other : s ≠ .holding job) : w.pool.worker j = .holding job := by
      rw [Pool.worker_set _ inside, if_pos rfl] at holds
      exact absurd holds other
    have idle (none : (w'.pool.worker j).job? = none) : w.pool.worker j = .holding job := by
      rw [holds] at none
      cases none
    cases labor with
    | seeks here => exact idle ((Pool.job?_seek here j).trans (by rw [here]; rfl))
    | leaves here => exact idle (lined.job?_leave here)
    | takes _ going => cases stopped.symm.trans going
    | begins | pauses | repeats | drops => exact sets holds nofun
    | concludes => exact sets (s := .seeking) holds nofun
  · rcases labor.others lined mine with same | ⟨-, none⟩
    · exact same.symm.trans holds
    · rw [holds] at none
      cases none

/-! ### The leader and the clock -/

/-- Nobody is late, and nothing is left undone while time passes. -/
structure Timely (w : Watch) : Prop where
  early : w.OnTime
  workers : ∀ i due, (w.pool.worker i).due? = some due → w.now ≤ due
  draining : ∀ goal due, w.leader = .draining goal due →
    w.pool.stopped = true ∧ (w.now < due ∨ ∀ i job, w.pool.worker i ≠ .holding job)
  recording : ∀ goal due, w.leader = .recording goal due →
    w.pool.isOver = true ∧ (w.now < due ∨ w.pool.recorder ≠ .running)
  gone : w.pool.recorder ≠ .running → w.pool.isOver = true ∧ w.pool.findings = []

/-- What touches neither the leader nor the workers leaves nobody late. -/
theorem Timely.aside (timely : Timely w) (leader : w'.leader = w.leader) (now : w'.now = w.now)
    (workers : w'.pool.workers = w.pool.workers) (stopped : w'.pool.stopped = w.pool.stopped)
    (recorder : w'.pool.recorder = w.pool.recorder)
    (findings : w'.pool.findings = w.pool.findings) :
    Timely w' := by
  have worker (i : Nat) : w'.pool.worker i = w.pool.worker i := by
    rw [Pool.worker, workers, Pool.worker]
  have isOver : w'.pool.isOver = w.pool.isOver := by rw [Pool.isOver, workers, Pool.isOver]
  refine ⟨fun due waits => ?_, fun i due waits => ?_, fun goal due leading => ?_,
    fun goal due leading => ?_,
    fun gone => ?_⟩
  · rw [Watch.due?_leader_congr leader] at waits
    exact now ▸ timely.early due waits
  · rw [worker] at waits
    exact now ▸ timely.workers i due waits
  · simp only [stopped, now, worker]
    exact timely.draining goal due (leader ▸ leading)
  · rw [isOver, now, recorder]
    exact timely.recording goal due (leader ▸ leading)
  · rw [isOver, findings]
    exact timely.gone (recorder ▸ gone)

/-- What the leader does in its rounds or at the end leaves nobody late, if it begins to wait in
time. -/
theorem Timely.leads (timely : Timely w) (early : w'.OnTime) (now : w'.now = w.now)
    (workers : w'.pool.workers = w.pool.workers) (findings : w'.pool.findings = w.pool.findings)
    (recorder : w'.pool.recorder = w.pool.recorder)
    (draining : ∀ goal due, w'.leader = .draining goal due → w'.pool.stopped = true ∧ w.now < due)
    (recording : ∀ goal due, w'.leader = .recording goal due → w.pool.isOver = true ∧ w.now < due) :
    Timely w' := by
  have isOver : w'.pool.isOver = w.pool.isOver := by rw [Pool.isOver, workers, Pool.isOver]
  refine ⟨early, fun i due waits => ?_, fun goal due leading => ?_, fun goal due leading => ?_,
    fun gone => ?_⟩
  · rw [Pool.worker, workers] at waits
    exact now ▸ timely.workers i due waits
  · obtain ⟨stopped, later⟩ := draining goal due leading
    exact ⟨stopped, .inl (now ▸ later)⟩
  · obtain ⟨done, later⟩ := recording goal due leading
    exact ⟨isOver.trans done, .inl (now ▸ later)⟩
  · rw [isOver, findings]
    exact timely.gone (recorder ▸ gone)

/-- A worker that makes a step is late for nothing, and waits for nothing that has passed. -/
theorem Timely.works (timely : Timely w) (lined : w.pool.IsLined) (labor : Labor w i w' acts) :
    Timely w' := by
  have frame := labor.frame
  have going : w.pool.isOver = false := by
    rw [← Bool.not_eq_true, Pool.isOver_iff]
    intro isOver
    have mine := labor.not_isOver
    rw [isOver i] at mine
    cases mine
  refine ⟨fun due waits => ?_, fun j due waits => ?_, fun goal due leading => ?_,
    fun goal due leading => ?_,
    fun gone => ?_⟩
  · rw [Watch.due?_leader_congr frame.leader] at waits
    exact frame.now ▸ timely.early due waits
  · rw [frame.now]
    rcases due_of_labor labor waits with before | later
    · exact timely.workers j due before
    · exact later
  · obtain ⟨stopped, settled⟩ := timely.draining goal due (frame.leader ▸ leading)
    rw [frame.stopped, frame.now]
    refine ⟨stopped, settled.imp_right fun none j job holds => ?_⟩
    exact none j job (holding_of_labor labor lined stopped holds)
  · rw [(timely.recording goal due (frame.leader ▸ leading)).1] at going
    cases going
  · rw [(timely.gone (frame.recorder ▸ gone)).1] at going
    cases going

theorem Timely.records (timely : Timely w) (recording : Recording w w' acts) : Timely w' := by
  cases recording with
  | records running =>
      refine ⟨timely.early, timely.workers, timely.draining, timely.recording, fun gone => ?_⟩
      exact absurd running gone
  | finishes running none isOver =>
      refine ⟨timely.early, timely.workers, timely.draining, ?_, fun _ => ⟨isOver, none⟩⟩
      intro goal due leading
      exact ⟨isOver, .inr nofun⟩

/-- A leader that makes a step turns to something whose time is still to come. -/
theorem Timely.moveLeader (timely : Timely w) (grace : 0 < w.policy.grace.nanos)
    (done : w.moveLeader = some (w', acts)) : Timely w' := by
  have pos := Duration.millisUp_pos grace
  have lead := Watch.lead_of_moveLeader done
  have early := lead.keeps.onTime timely.early
  cases ending : w.leader.isEnding with
  | false =>
      rcases Watch.lead_of_rounds lead ending with rounds | ⟨turns, -⟩
      · have none {l : Watch.Leader} (last : l.isEnding = true) : w'.leader ≠ l := by
          rintro rfl
          rw [rounds.going] at last
          cases last
        have pool := rounds.pool
        refine timely.leads early rounds.now ?_ ?_ ?_ (fun _ _ leading => absurd leading (none rfl))
          fun _ _ leading => absurd leading (none rfl)
        all_goals rw [pool]
      · obtain ⟨goal, leader⟩ := turns.leader
        have pool := turns.pool
        refine timely.leads early turns.now ?_ ?_ ?_
          (fun goal due leading => ?_) fun goal due leading => ?_
        · rw [pool]
        · rw [pool]
        · rw [pool]
        · cases leader.symm.trans leading
          exact ⟨by rw [pool], by omega⟩
        · cases leader.symm.trans leading
  | true =>
      cases Watch.closing_of_moveLeader done ending with
      | drains leader isOver | hasAborted leader isOver =>
          refine timely.leads early rfl rfl rfl rfl nofun fun goal due leading => ?_
          cases leading
          exact ⟨isOver, by omega⟩
      | aborts leader going =>
          refine ⟨early, fun i due waits => ?_, nofun, nofun, fun gone => ?_⟩
          · exact timely.workers i due ((Watch.leaves_abort w _).workers i due waits)
          · cases going.symm.trans (timely.gone gone).1
      | @hasRecorded goal due leader gone =>
          rcases Watch.endPool_cases w goal with same | same
          · rw [same] at early ⊢
            exact timely.leads early rfl rfl rfl rfl nofun nofun
          · rw [same] at early ⊢
            exact timely.leads early rfl rfl rfl rfl nofun nofun
      | dismisses leader running come =>
          rcases (timely.recording _ _ leader).2 with early | gone
          · omega
          · exact absurd running gone
      | stops => exact timely.leads early rfl rfl rfl rfl nofun nofun

/-- The clock is the only one that could make somebody late, and it moves no further than the first
who waits. -/
theorem Timely.tick {now : Nat} (timely : Timely w)
    (clock : (Moment.mk w (.watch (.tick now)) acts w').onClock = true)
    (early : Watch.OnTime { w with now }) : Timely { w with now } := by
  obtain ⟨workers, recorder⟩ := waits_of_onClock clock rfl
  refine ⟨early, fun i => (workers i).2, fun goal due leading => ?_, fun goal due leading => ?_,
    timely.gone⟩
  · refine ⟨(timely.draining goal due leading).1, .inr fun i job holds => ?_⟩
    have holds : w.pool.worker i = .holding job := holds
    have waits := (workers i).1
    simp [Watch.moveWorker, holds] at waits
  · obtain ⟨isOver, -⟩ := timely.recording goal due leading
    refine ⟨isOver, .inr fun running => ?_⟩
    have running : w.pool.recorder = .running := running
    have isOver : w.pool.isOver = true := isOver
    simp only [Watch.moveRecorder, running, isOver] at recorder
    split at recorder
    · exact absurd rfl ‹_›
    · split at recorder <;> cases recorder

/-- A leader that is called has no time to miss yet. -/
theorem Timely.engage (timely : Timely w) (grace : 0 < w.policy.grace.nanos) (goal : Watch.Goal) :
    Timely (w.engage goal).1 := by
  have pos := Duration.millisUp_pos grace
  have early := (Watch.keeps_engage w goal).onTime timely.early
  cases goal with
  | refresh | round | run | close => exact timely.leads early rfl rfl rfl rfl nofun nofun
  | terminate =>
      refine timely.leads early rfl rfl rfl rfl (fun goal due leading => ?_) nofun
      cases leading
      exact ⟨rfl, by omega⟩

/-- On the clock nobody is ever late. -/
theorem timely_of_act? (done : act? w d = some (w', acts))
    (clock : (Moment.mk w d acts w').onClock = true) (grace : 0 < w.policy.grace.nanos)
    (lined : w.pool.IsLined) (timely : Timely w) : Timely w' := by
  cases doing_of_act? done with
  | works labor => exact timely.works lined labor
  | records recording => exact timely.records recording
  | leads done => exact timely.moveLeader grace done
  | engages => exact timely.engage grace _
  | ticks early => exact timely.tick clock early
  | rests _ _ _ leader now pool =>
      refine timely.aside leader now ?_ ?_ ?_ ?_
      all_goals rw [pool]

/-! ### Whole runs -/

section Runs

variable {past : List Moment}

theorem policy_of_act? (done : act? w d = some (w', acts)) : w'.policy = w.policy := by
  cases d with
  | order job =>
      simp only [act?] at done
      split at done
      · cases done
        rfl
      · cases done
  | watch d => exact (Watch.keeps_of_act? done).policy

/-- What nobody is late for: everything that has been done before has been done in time. -/
theorem Run.timely {k : Chronicle} (run : Run w past w') (clock : ∀ m ∈ past, m.onClock = true)
    (grace : 0 < w.policy.grace.nanos) (follows : k.Follows w) (timely : Timely w) :
    w'.policy = w.policy ∧ (past.foldl .note k).Follows w' ∧ Timely w' := by
  refine run.keeps (p := fun v k => v.policy = w.policy ∧ k.Follows v ∧ Timely v)
    (q := fun m => m.onClock = true) ?_ clock ⟨rfl, follows, timely⟩
  rintro m k done clock ⟨policy, follows, timely⟩
  exact ⟨(policy_of_act? done).trans policy, follows.note done,
    timely_of_act? done clock (policy ▸ grace) follows.lined timely⟩

/-- Where the leader waits for the workers it has done so before, or it has just begun. -/
theorem draining_of_act? {goal : Watch.Goal} {due : Nat} (done : act? w d = some (w', acts))
    (leading : w'.leader = .draining goal due) :
    w.leader = .draining goal due ∨
      (Moment.mk w d acts w').stops = true ∧ due = w.now + w.policy.grace.millisUp := by
  have stops (before : w.leader.isDraining = false) : (Moment.mk w d acts w').stops = true := by
    simp only [Moment.stops, before, leading]
    rfl
  cases doing_of_act? done with
  | works labor => exact .inl (labor.frame.leader ▸ leading)
  | records recording =>
      cases recording with
      | records | finishes => exact .inl leading
  | leads done =>
      cases ending : w.leader.isEnding with
      | false =>
          have before := Watch.Leader.not_isDraining ending
          rcases Watch.lead_of_rounds (Watch.lead_of_moveLeader done) ending with rounds |
            ⟨turns, -⟩
          · have going := rounds.going
            rw [leading] at going
            cases going
          · obtain ⟨goal, leader⟩ := turns.leader
            cases leader.symm.trans leading
            exact .inr ⟨stops before, rfl⟩
      | true =>
          have elsewhere := (Watch.closing_of_moveLeader done ending).frame.1
          rw [leading] at elsewhere
          cases elsewhere
  | @engages goal idle =>
      have before : w.leader.isDraining = false := by rw [idle]; rfl
      cases goal with
      | refresh | round | run | close => cases leading
      | terminate =>
          cases leading
          exact .inr ⟨stops before, rfl⟩
  | ticks => exact .inl leading
  | rests _ _ _ leader => exact .inl (leader ▸ leading)

/-- The leader waits for the workers as long as the grace, from the moment on at which it has
stopped the pool. -/
theorem Run.draining {goal : Watch.Goal} {due : Nat} (run : Run w past w')
    (leading : w'.leader = .draining goal due) :
    w.leader = .draining goal due ∨
      ∃ s ∈ past, s.stops = true ∧ due = s.before.now + w.policy.grace.millisUp := by
  induction run with
  | rest => exact .inl leading
  | step done _ ih =>
      rcases ih leading with before | ⟨s, mem, stops, same⟩
      · rcases draining_of_act? done before with before | ⟨stops, same⟩
        · exact .inl before
        · exact .inr ⟨_, List.mem_cons_self, stops, same⟩
      · rw [policy_of_act? done] at same
        exact .inr ⟨s, List.mem_cons_of_mem _ mem, stops, same⟩

/-- A pool that has been stopped stays so, and a recorder that has come to its end does not start
again. -/
theorem ended_of_act? (done : act? w d = some (w', acts)) :
    (w.pool.stopped = true → w'.pool.stopped = true) ∧
      (w.pool.recorder ≠ .running → w'.pool.recorder ≠ .running) := by
  cases doing_of_act? done with
  | works labor => exact ⟨labor.frame.stopped.trans, fun gone => labor.frame.recorder ▸ gone⟩
  | records recording =>
      cases recording with
      | records running | finishes running => exact ⟨id, absurd running⟩
  | leads done =>
      cases ending : w.leader.isEnding with
      | false =>
          rcases Watch.lead_of_rounds (Watch.lead_of_moveLeader done) ending with rounds |
            ⟨turns, -⟩
          · rw [rounds.pool]
            exact ⟨id, id⟩
          · rw [turns.pool]
            exact ⟨fun _ => rfl, id⟩
      | true =>
          have frame := (Watch.closing_of_moveLeader done ending).frame
          exact ⟨frame.2.1.trans, frame.2.2.1⟩
  | @engages goal =>
      cases goal with
      | refresh | round | run | close => exact ⟨id, id⟩
      | terminate => exact ⟨fun _ => rfl, id⟩
  | ticks => exact ⟨id, id⟩
  | rests _ _ _ _ _ pool =>
      rw [pool]
      exact ⟨id, id⟩

/-- Once the pool has been stopped, no service is taken. -/
theorem Run.not_took (run : Run w past w') (stopped : w.pool.stopped = true) :
    ∀ m ∈ past, m.took = [] := by
  induction run with
  | rest => exact fun m mem => nomatch mem
  | step done _ ih =>
      refine List.forall_mem_cons.mpr ⟨?_, ih ((ended_of_act? done).1 stopped)⟩
      cases effect_of_act? done with
      | works labor =>
          cases labor with
          | takes _ going => cases stopped.symm.trans going
          | seeks | leaves | begins | pauses | concludes | repeats | drops => rfl
      | records recording =>
          cases recording with
          | records | finishes => rfl
      | aborts => rfl
      | nothing quiet => exact quiet.took

/-- Once it has turned to the end, only its last steps lead the leader on. -/
theorem closing_of_act? (done : act? w d = some (w', acts)) (ending : w.leader.isEnding = true) :
    w'.leader = w.leader ∨ Watch.Closing w w' acts := by
  cases doing_of_act? done with
  | works labor => exact .inl labor.frame.leader
  | records recording =>
      cases recording with
      | records | finishes => exact .inl rfl
  | leads done => exact .inr (Watch.closing_of_moveLeader done ending)
  | engages idle =>
      rw [idle] at ending
      cases ending
  | ticks => exact .inl rfl
  | rests _ _ _ leader => exact .inl leader

/-- On the clock, the leader waits for the recorder until that has come to its end. -/
theorem gone_of_returns (timely : Timely w) (done : act? w d = some (w', acts))
    (returns : (Moment.mk w d acts w').returns = true) : w.pool.recorder ≠ .running := by
  obtain ⟨before, after⟩ := Bool.and_eq_true_iff.mp returns
  cases leader : w.leader with
  | recording goal due =>
      rcases closing_of_act? done (by rw [leader]; rfl) with same | closing
      · simp [same, leader, Watch.Leader.isRecording] at after
      · cases closing with
        | drains other | aborts other | hasAborted other | stops other =>
            cases leader.symm.trans other
        | hasRecorded _ gone => exact gone
        | dismisses leading _ come =>
            rcases (timely.recording _ _ leading).2 with early | gone
            · omega
            · exact gone
  | idle | sleeping | fetching | pacing | waiting | draining | aborting | closing =>
      rw [leader] at before
      cases before

/-- The leader aborts the workers when it has waited for them as long as it may. -/
theorem due_of_aborts (done : act? w d = some (w', acts))
    (aborts : (Moment.mk w d acts w').aborts = true) :
    ∃ goal due, w.leader = .draining goal due ∧ due ≤ w.now := by
  obtain ⟨before, after⟩ := Bool.and_eq_true_iff.mp aborts
  cases leader : w.leader with
  | draining goal due =>
      rcases closing_of_act? done (by rw [leader]; rfl) with same | closing
      · simp [same, leader, Watch.Leader.isAborting] at after
      · cases closing with
        | drains => cases after
        | hasRecorded other | hasAborted other | stops other | dismisses other =>
            cases leader.symm.trans other
        | aborts leading _ come =>
            cases leader.symm.trans leading
            exact ⟨goal, due, rfl, come⟩
  | idle | sleeping | fetching | pacing | waiting | aborting | recording | closing =>
      rw [leader] at before
      cases before

/-- When all workers and the recorder have come to their end, the executions stay as they are. -/
theorem Run.settled (run : Run w past w') (isOver : w.pool.isOver = true)
    (gone : w.pool.recorder ≠ .running) (k : Chronicle) : past.foldl .note k = k := by
  induction run with
  | rest => rfl
  | @step w _ _ d acts _ done _ ih =>
      have later := (ended_of_act? done).2 gone
      cases effect_of_act? done with
      | works labor =>
          have going := labor.not_isOver
          rw [Pool.isOver_iff.mp isOver] at going
          cases going
      | records recording =>
          cases recording with
          | records running | finishes running => exact absurd running gone
      | aborts going => cases isOver.symm.trans going
      | nothing quiet =>
          rw [List.foldl_cons, quiet.note]
          refine ih ?_ later
          rw [Pool.isOver, quiet.hands.workers]
          exact isOver

end Runs

/-! ### What becomes of executions in the end -/

theorem Timely.ofSize {size : Nat} {c : Confirmation} (pool : w.pool = .ofSize size c)
    (idle : w.leader = .idle) : Timely w := by
  have early : w.OnTime := Watch.onTime_of_none (by rw [Watch.due?, idle])
  refine ⟨early, fun i due waits => ?_, ?_, ?_, fun gone => ?_⟩
  · simp only [pool, Pool.worker, Pool.ofSize, List.getElem?_replicate] at waits
    split at waits
    · cases waits
    · cases waits
  · rw [idle]
    rintro goal due ⟨⟩
  · rw [idle]
    rintro goal due ⟨⟩
  · rw [pool] at gone
    exact absurd rfl gone

/-- There are no more executions in progress than workers. -/
theorem Chronicle.Follows.length_le {k : Chronicle} (follows : k.Follows w) :
    k.going.length ≤ w.pool.workers.length := by
  have inside : k.going.map Course.worker ⊆ List.range w.pool.workers.length := by
    intro i mem
    obtain ⟨x, going, rfl⟩ := List.mem_map.mp mem
    refine List.mem_range.mpr (Pool.lt_of_worker fun isOver => ?_)
    have works := (follows.here x going).job?
    rw [isOver] at works
    cases works
  simpa using (follows.apart.subperm inside).length_le

/-- Where all workers have come to their end, no execution is in progress. -/
theorem Chronicle.Follows.going_eq_nil {k : Chronicle} (follows : k.Follows w)
    (isOver : w.pool.isOver = true) : k.going = [] := by
  refine List.eq_nil_iff_forall_not_mem.mpr fun x mem => ?_
  have works := (follows.here x mem).job?
  rw [Worker.job?_of_isOver (Pool.isOver_iff.mp isOver _)] at works
  cases works

/-- An execution is either about to begin, or its worker waits for the clock. -/
theorem Course.At.due? {x : Course} {retries : Nat} {s : Worker} (here : x.At retries s)
    (begun : ∀ job, s ≠ .holding job) : ∃ due, s.due? = some due := by
  cases here with
  | holding => exact absurd rfl (begun _)
  | @checking _ due => exact ⟨due, rfl⟩
  | @pausing _ due => exact ⟨due, rfl⟩

/-- In a pool at work that the leader may end, services are taken in the order in which they are
sent, and each of them has one execution: it is in progress, or has come to its verdict, or has been
aborted. There are never more in progress than workers. The verdicts that are recorded are those of
the executions that have come to one, each once and in that order. Once the leader has stopped the
pool, no service is taken. If it aborts what is in progress, it does so just when the grace is over,
and every execution that it aborts would have gone on until then or longer. When the leader goes on,
no execution is in progress, each verdict has been recorded, and nothing changes any more. -/
theorem accounts {size : Nat} {c : Confirmation} {past : List Moment}
    (pool : w.pool = .ofSize size c) (idle : w.leader = .idle) (grace : 0 < w.policy.grace.nanos)
    (run : Run w past w') (clock : ∀ m ∈ past, m.onClock = true) :
    past.flatMap Moment.sent = past.flatMap Moment.took ++ w'.pool.jobs ∧
    (((chronicle past).going ++ (chronicle past).concluded ++ (chronicle past).aborted).map
      Course.taking).Perm (past.flatMap Moment.took).zipIdx ∧
    (chronicle past).going.length ≤ max size 1 ∧
    (chronicle past).concluded.map Course.finding? =
      ((chronicle past).recorded ++ w'.pool.findings).map some ∧
    ∀ earlier m later, past = earlier ++ m :: later →
      (m.stops = true → ∀ x ∈ later, x.took = []) ∧
      (m.aborts = true →
        (∃ s ∈ earlier, s.stops = true ∧ m.before.now = s.before.now + w.policy.grace.millisUp) ∧
        ∀ x ∈ (chronicle earlier).going, ∃ due,
          (m.before.pool.worker x.worker).due? = some due ∧ m.before.now ≤ due) ∧
      (m.returns = true → (chronicle earlier).going = [] ∧
        (chronicle earlier).concluded.map Course.finding? = (chronicle earlier).recorded.map some ∧
        chronicle past = chronicle earlier) := by
  have follows := Chronicle.Follows.ofSize pool
  have timely := Timely.ofSize pool idle
  obtain ⟨-, after, -⟩ := run.timely clock grace follows timely
  have jobs := run.jobs
  have taken := run.taken .blank
  refine ⟨by simpa [pool, Pool.ofSize] using jobs, ?_, ?_, after.findings, ?_⟩
  · have takings := after.takings
    rwa [taken] at takings
  · have bound := after.length_le
    rwa [run.frame.1, pool, Pool.ofSize, List.length_replicate] at bound
  · rintro earlier m later rfl
    obtain ⟨before, done, rest⟩ := run.split
    obtain ⟨policy, follows, timely⟩ := before.timely
      (fun m mem => clock m (List.mem_append_left _ mem)) grace follows timely
    have here := clock m (List.mem_append_right _ List.mem_cons_self)
    have next := timely_of_act? done here (policy ▸ grace) follows.lined timely
    refine ⟨fun stops => ?_, fun aborts => ?_, fun returns => ?_⟩
    · obtain ⟨_, draining⟩ := Bool.and_eq_true_iff.mp stops
      cases leader : m.after.leader with
      | draining goal due => exact rest.not_took (next.draining goal due leader).1
      | idle | sleeping | fetching | pacing | waiting | aborting | recording | closing =>
          rw [leader] at draining
          cases draining
    · obtain ⟨goal, due, leader, come⟩ := due_of_aborts done aborts
      have early := timely.early due (by rw [Watch.due?, leader])
      rcases before.draining leader with waiting | ⟨s, mem, stops, same⟩
      · cases idle.symm.trans waiting
      · refine ⟨⟨s, mem, stops, by omega⟩, fun x going => ?_⟩
        have begun := (timely.draining goal due leader).2.resolve_left (by omega) x.worker
        obtain ⟨due, waits⟩ := (follows.here x going).due? begun
        exact ⟨due, waits, timely.workers _ due waits⟩
    · have gone := gone_of_returns timely done returns
      obtain ⟨isOver, none⟩ := timely.gone gone
      have findings := follows.findings
      rw [none, List.append_nil] at findings
      refine ⟨follows.going_eq_nil isOver, findings, ?_⟩
      have same := (Run.step done rest).settled isOver gone (chronicle earlier)
      rwa [chronicle, List.foldl_append]

/-! ### A check that hangs -/

def longCheck (id : Int) (cell : Nat) : Monitored :=
  { (default : Monitored) with service.id := id, checker := .rehearsed (.ofSecs 600), cell }

/-- One worker, and two seconds of grace. The check of the second service hangs. -/
def hungCheck : Watch :=
  { Watch.ofParts ⟨fun _ => none, .ofSecs 60, .ofSecs 2⟩
      ⟨[], true, [], Keyed.empty.insert 2 (.ofList [⟨0, .silence⟩]), []⟩
      (.ofSize 1 default) default with
    roster := ⟨.empty, [default, default], 2⟩ }

/-- The first check ends, the second one is running as the pool is ended, and a third service
waits. -/
def endedInCheck : List Deed :=
  [.order (longCheck 1 0), .order (longCheck 2 1), .order (longCheck 2 1)] ++
    ([.worker 0, .worker 0, .worker 0, .worker 0, .recorder, .worker 0, .worker 0, .worker 0].map
      fun t => .watch (.move t)) ++
    [.watch (.call .terminate), .watch (.tick 2000)] ++
    [.leader, .worker 0, .leader, .recorder, .leader].map fun t => .watch (.move t)

theorem hungCheck_accounts :
    ∃ past w', Run hungCheck past w' ∧ (chronicle past).going = [] ∧
      (chronicle past).recorded.length = 1 ∧ (chronicle past).aborted.length = 1 ∧
      (past.flatMap Moment.sent).length = 3 ∧ w'.pool.jobs.length = 1 ∧
      ∃ m ∈ past, m.aborts = true ∧ ∃ s ∈ past, s.stops = true ∧
        m.before.now = s.before.now + 2000 := by
  obtain ⟨past, w', run, clock, ⟨m, mem, aborts⟩, ⟨last, returned, returns⟩, recorded,
    aborted, sent,
      jobs⟩ :=
    exists_run hungCheck endedInCheck
      (fun past w' => (∀ m ∈ past, m.onClock = true) ∧ (∃ m ∈ past, m.aborts = true) ∧
        (∃ m ∈ past, m.returns = true) ∧ (chronicle past).recorded.length = 1 ∧
        (chronicle past).aborted.length = 1 ∧ (past.flatMap Moment.sent).length = 3 ∧
        w'.pool.jobs.length = 1)
      (by decide +kernel)
  have pool : hungCheck.pool = .ofSize 1 default := rfl
  obtain ⟨-, -, -, -, parts⟩ := accounts pool rfl (by decide) run clock
  obtain ⟨earlier, later, split⟩ := List.append_of_mem mem
  obtain ⟨⟨s, before, stops, time⟩, -⟩ := (parts earlier m later split).2.1 aborts
  obtain ⟨upTo, beyond, split'⟩ := List.append_of_mem returned
  obtain ⟨none, -, same⟩ := (parts upTo last beyond split').2.2 returns
  refine ⟨past, w', run, same ▸ none, recorded, aborted, sent, jobs, m, mem, aborts, s, ?_, stops,
    time⟩
  rw [split]
  exact List.mem_append_left _ before

end Shift

end Vigil
