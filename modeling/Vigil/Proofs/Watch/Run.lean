import Vigil.Watch.Basic

/-!
Runs of a watch. The tasks take their steps in any order, the leader is set to work when it is idle,
and what comes from outside may change at any time. The clock moves on only while the leader has to
wait, and not beyond the moment for which it waits; the other tasks may be as late as they like.

Main definition: `Watch.Run`. Main statements: `Watch.act_cases`, nobody else does the work of the
leader; `Watch.Run.jobs`, the services that are sent to the pool are taken in that order, each once.
-/

namespace Vigil.Watch

/-! ### Deeds -/

def engage (w : Watch) : Goal → Watch × List Act
  | .run =>
    let (w, acts) := { w with lifecycle := .running }.fetch .run
    (w, .entered .running :: acts)
  | .terminate => (w.drain .terminate, [])
  | .close => (w.close, [])
  | goal => w.fetch goal

inductive Deed where
  | call (goal : Goal)
  | move (t : Task)
  /-- The clock moves on. -/
  | tick (now : Nat)
  /-- What comes from outside changes. -/
  | restage (stage : Stage)
  /-- The rounds will be cancelled at some time, and not before. -/
  | arm (alarm : Nat)

/-- What becomes of a watch by a deed, and what happens then, if it can be done. -/
def act? (w : Watch) : Deed → Option (Watch × List Act)
  | .call goal => if w.leader = .idle then some (w.engage goal) else none
  | .move t => w.move t
  | .tick now =>
    if w.now ≤ now ∧ w.moveLeader.isNone ∧ (w.due? .leader).all (now ≤ ·) then
      some ({ w with now }, [])
    else none
  | .restage stage => some ({ w with stage }, [])
  | .arm alarm => some ({ w with cancelled := false, alarm := some alarm }, [])

def Deed.byLeader : Deed → Bool
  | .call _ | .move .leader => true
  | _ => false

def Act.byLeader : Act → Bool
  | .fetched _ | .merged _ | .sent _ | .rounded _ | .entered _ => true
  | _ => false

def Act.sent? : Act → Option Monitored
  | .sent job => some job
  | _ => none

def Act.took? : Act → Option Monitored
  | .took job => some job
  | _ => none

/-! ### What deeds leave as it is -/

/-- The leader is not late: the time for which it waits has not passed. -/
def OnTime (w : Watch) : Prop := ∀ due, w.due? .leader = some due → w.now ≤ due

/-- What every deed keeps: the settings, the services on their way through the queue of the pool,
and that the leader is not late. -/
structure Keeps (w : Watch) (acts : List Act) (w' : Watch) : Prop where
  policy : w'.policy = w.policy
  later : w.now ≤ w'.now
  jobs : w.pool.jobs ++ acts.filterMap Act.sent? = acts.filterMap Act.took? ++ w'.pool.jobs
  onTime : w.OnTime → w'.OnTime

/-- What deeds of others than the leader keep as well. -/
structure Aside (w : Watch) (acts : List Act) (w' : Watch) : Prop extends Keeps w acts w' where
  leader : w'.leader = w.leader
  acts : ∀ act ∈ acts, act.byLeader = false

theorem due?_leader_congr {w w' : Watch} (same : w'.leader = w.leader) :
    w'.due? .leader = w.due? .leader := by simp only [due?, same]

theorem Aside.sent {w w' : Watch} {acts : List Act} (aside : Aside w acts w') :
    acts.filterMap Act.sent? = [] := by
  refine List.filterMap_eq_nil_iff.mpr fun act mem => ?_
  have other := aside.acts act mem
  cases act with
  | sent job => cases other
  | _ => rfl

/-- A deed keeps aside if it touches neither the leader nor the clock nor the queue, and nobody
sends or takes services. -/
theorem Aside.of_quiet {w w' : Watch} {acts : List Act} (leader : w'.leader = w.leader)
    (policy : w'.policy = w.policy) (now : w'.now = w.now) (jobs : w'.pool.jobs = w.pool.jobs)
    (others : ∀ act ∈ acts, act.byLeader = false ∧ act.took? = none) : Aside w acts w' := by
  have sent : acts.filterMap Act.sent? = [] := by
    refine List.filterMap_eq_nil_iff.mpr fun act mem => ?_
    have other := (others act mem).1
    cases act with
    | sent job => cases other
    | _ => rfl
  have took : acts.filterMap Act.took? = [] :=
    List.filterMap_eq_nil_iff.mpr fun act mem => (others act mem).2
  refine ⟨⟨policy, Nat.le_of_eq now.symm, ?_, fun early due waits => ?_⟩, leader,
    fun act mem => (others act mem).1⟩
  · rw [sent, took, jobs, List.append_nil, List.nil_append]
  · rw [due?_leader_congr leader] at waits
    rw [now]
    exact early due waits

/-! ### Steps of others -/

theorem jobs_yieldTurn (p : Pool) : p.yieldTurn.jobs = p.jobs := by
  unfold Pool.yieldTurn
  split
  · rfl
  · rfl

theorem jobs_seek (p : Pool) (i : Nat) : (p.seek i).jobs = p.jobs := by
  unfold Pool.seek
  split
  · rfl
  · rfl

/-- A worker takes the first service of the queue or none. -/
theorem aside_of_listen {w : Watch} {i : Nat} {pool : Pool} (done : w.pool.listen i = some pool) :
    Aside w (if w.pool.stopped then [] else (w.pool.jobs.head?.map Act.took).toList)
      { w with pool } := by
  unfold Pool.listen at done
  split at done
  · rename_i stopped
    cases done
    rw [if_pos stopped]
    refine .of_quiet rfl rfl rfl ?_ fun act mem => nomatch mem
    exact jobs_yieldTurn _
  · rename_i going
    split at done
    · cases done
    · rename_i job rest queue
      cases done
      rw [if_neg going, queue]
      refine ⟨⟨rfl, Nat.le_refl _, ?_, fun early => early⟩, rfl, ?_⟩
      · rw [jobs_yieldTurn]
        simp [Act.sent?, Act.took?, queue]
      · simp [Act.byLeader]

/-- Workers neither set the leader to work nor take time from it. -/
theorem aside_of_moveWorker {w w' : Watch} {i : Nat} {acts : List Act}
    (done : w.moveWorker i = some (w', acts)) : Aside w acts w' := by
  unfold moveWorker at done
  split at done
  · cases done
    exact .of_quiet rfl rfl rfl (jobs_seek _ _) fun act mem => nomatch mem
  · cases done
  · cases done
  · cases done
  · obtain ⟨pool, taken, same⟩ := Option.map_eq_some_iff.mp done
    cases same
    exact aside_of_listen taken
  · cases done
    exact .of_quiet rfl rfl rfl rfl (by simp [Act.byLeader, Act.took?])
  · split at done
    · cases done
    · split at done
      · cases done
        exact .of_quiet rfl rfl rfl rfl fun act mem => nomatch mem
      · cases done
        exact .of_quiet rfl rfl rfl rfl (by simp [Act.byLeader, Act.took?])
  · split at done
    · cases done
    · cases done
      exact .of_quiet rfl rfl rfl rfl (by simp [Act.byLeader, Act.took?])
  · cases done
    exact .of_quiet rfl rfl rfl rfl fun act mem => nomatch mem

/-- Nor does the recorder. -/
theorem aside_of_moveRecorder {w w' : Watch} {acts : List Act}
    (done : w.moveRecorder = some (w', acts)) : Aside w acts w' := by
  unfold moveRecorder at done
  split at done
  · cases done
  · split at done
    · cases done
      exact .of_quiet rfl rfl rfl rfl (by simp [Act.byLeader, Act.took?])
    · split at done
      · cases done
        exact .of_quiet rfl rfl rfl rfl fun act mem => nomatch mem
      · cases done

theorem aside_of_moveWriter {w w' : Watch} {acts : List Act}
    (done : w.moveWriter = some (w', acts)) : Aside w acts w' := by
  obtain ⟨⟨writer, written⟩, -, same⟩ := Option.map_eq_some_iff.mp done
  cases same
  refine .of_quiet rfl rfl rfl rfl fun act mem => ?_
  obtain ⟨act, -, rfl⟩ := List.mem_map.mp mem
  exact ⟨rfl, rfl⟩

theorem aside_of_moveCanceller {w w' : Watch} {acts : List Act}
    (done : w.moveCanceller = some (w', acts)) : Aside w acts w' := by
  unfold moveCanceller at done
  split at done
  · cases done
  · split at done
    · cases done
    · cases done
      exact .of_quiet rfl rfl rfl rfl (by simp [Act.byLeader, Act.took?])

theorem aside_of_move {w w' : Watch} {t : Task} {acts : List Act} (other : t ≠ .leader)
    (done : w.move t = some (w', acts)) : Aside w acts w' := by
  cases t with
  | leader => exact absurd rfl other
  | worker i => exact aside_of_moveWorker done
  | recorder => exact aside_of_moveRecorder done
  | writer => exact aside_of_moveWriter done
  | canceller => exact aside_of_moveCanceller done

/-- A deed of others leaves the work of the leader to the leader. -/
theorem aside_of_act? {w w' : Watch} {d : Deed} {acts : List Act}
    (done : w.act? d = some (w', acts)) (other : d.byLeader = false) : Aside w acts w' := by
  cases d with
  | call goal => cases other
  | move t =>
      refine aside_of_move ?_ done
      rintro rfl
      cases other
  | tick now =>
      simp only [act?] at done
      split at done
      · rename_i allowed
        obtain ⟨later, -, inTime⟩ := allowed
        cases done
        refine ⟨⟨rfl, later, by simp, fun _ due waits => ?_⟩, rfl, by simp⟩
        change w.due? .leader = some due at waits
        simpa [waits] using inTime
      · cases done
  | restage stage =>
      cases done
      exact .of_quiet rfl rfl rfl rfl fun act mem => nomatch mem
  | arm alarm =>
      cases done
      exact .of_quiet rfl rfl rfl rfl fun act mem => nomatch mem

/-! ### Steps of the leader -/

/-- A step of the leader keeps all that every deed keeps if it waits for no moment of the past, and
its acts tell of the services that it adds to the queue. -/
theorem Keeps.of_sent {w w' : Watch} {acts : List Act} (sent : List Monitored)
    (policy : w'.policy = w.policy) (now : w'.now = w.now)
    (jobs : w'.pool.jobs = w.pool.jobs ++ sent) (onTime : w'.OnTime)
    (sends : acts.filterMap Act.sent? = sent) (took : acts.filterMap Act.took? = []) :
    Keeps w acts w' :=
  ⟨policy, Nat.le_of_eq now.symm, by rw [sends, took, jobs, List.nil_append], fun _ => onTime⟩

/-- The same for steps that send nothing. -/
theorem Keeps.of_none {w w' : Watch} {acts : List Act} (policy : w'.policy = w.policy)
    (now : w'.now = w.now) (jobs : w'.pool.jobs = w.pool.jobs) (onTime : w'.OnTime)
    (sends : acts.filterMap Act.sent? = []) (took : acts.filterMap Act.took? = []) :
    Keeps w acts w' :=
  .of_sent [] policy now (jobs.trans (List.append_nil _).symm) onTime sends took

theorem Keeps.trans {w w' w'' : Watch} {acts more : List Act} (first : Keeps w acts w')
    (second : Keeps w' more w'') : Keeps w (acts ++ more) w'' where
  policy := second.policy.trans first.policy
  later := Nat.le_trans first.later second.later
  jobs := by
    rw [List.filterMap_append, List.filterMap_append, ← List.append_assoc, first.jobs,
      List.append_assoc, second.jobs, List.append_assoc]
  onTime early := second.onTime (first.onTime early)

theorem eq_of_done {w' : Watch} {acts : List Act} {step : Watch × List Act}
    (done : some step = some (w', acts)) : w' = step.1 ∧ acts = step.2 := by
  cases Option.some.inj done
  exact ⟨rfl, rfl⟩

/-- The leader waits for nothing on the clock. -/
theorem onTime_of_none {w : Watch} (none : w.due? .leader = none) : w.OnTime := by
  intro due waits
  rw [none] at waits
  cases waits

/-- When the moment for which the leader waits has come, it is that moment. -/
theorem OnTime.now_eq {w : Watch} (early : w.OnTime) {due : Nat} (waits : w.due? .leader = some due)
    (come : due ≤ w.now) : w.now = due :=
  Nat.le_antisymm (early due waits) come

/-- The leader waits for a moment that is yet to come. -/
theorem onTime_of_add {w : Watch} (ms : Nat) (waits : w.due? .leader = some (w.now + ms)) :
    w.OnTime := by
  intro due same
  rw [waits] at same
  cases same
  exact Nat.le_add_right _ _

theorem keeps_fetch (w : Watch) (goal : Goal) : Keeps w (w.fetch goal).2 (w.fetch goal).1 :=
  .of_none rfl rfl rfl (onTime_of_add _ rfl) rfl rfl

theorem keeps_drain (w : Watch) (goal : Goal) : Keeps w [] (w.drain goal) :=
  .of_none rfl rfl rfl (onTime_of_add _ rfl) rfl rfl

theorem keeps_refresh (w : Watch) : Keeps w w.refresh.2 w.refresh.1 where
  policy := rfl
  later := Nat.le_refl _
  jobs := List.append_nil _
  onTime early := early

theorem keeps_dismiss (w : Watch) (r : Recorder) : Keeps w [] (w.dismiss r) where
  policy := rfl
  later := Nat.le_refl _
  jobs := List.append_nil _
  onTime early := early

theorem keeps_wait (w : Watch) (goal : Goal) (began : Nat) : Keeps w [] (w.wait goal began) :=
  .of_none rfl rfl rfl (onTime_of_add _ rfl) rfl rfl

theorem keeps_send (w : Watch) (goal : Goal) (began : Nat) (pause : Clock.Duration) (m : Monitored)
    (rest : List Monitored) :
    Keeps w (w.send goal began pause m rest).2 (w.send goal began pause m rest).1 := by
  cases rest with
  | nil => exact .of_sent [m] rfl rfl rfl (onTime_of_add _ rfl) rfl rfl
  | cons => exact .of_sent [m] rfl rfl rfl (onTime_of_add _ rfl) rfl rfl

theorem keeps_dispatch (w : Watch) (goal : Goal) (began : Nat) :
    Keeps w (w.dispatch goal began).2 (w.dispatch goal began).1 := by
  unfold dispatch
  split
  · exact keeps_wait w goal began
  · exact keeps_send w goal began _ _ _

theorem keeps_idle (w : Watch) : Keeps w [] { w with leader := .idle } :=
  .of_none rfl rfl rfl (onTime_of_none rfl) rfl rfl

theorem keeps_endRound (w : Watch) (goal : Goal) (more : Bool) :
    Keeps w (w.endRound goal more).2 (w.endRound goal more).1 := by
  have told : Keeps w [.rounded more] { w with leader := .idle } :=
    .of_none rfl rfl rfl (onTime_of_none rfl) rfl rfl
  cases goal with
  | run =>
      cases more with
      | true => exact .of_none rfl rfl rfl (onTime_of_add _ rfl) rfl rfl
      | false => exact .of_none rfl rfl rfl (onTime_of_add _ rfl) rfl rfl
  | refresh | round | terminate | close => exact told

theorem keeps_endPool (w : Watch) (goal : Goal) : Keeps w [] (w.endPool goal) := by
  cases goal with
  | run => exact .of_none rfl rfl rfl (onTime_of_none rfl) rfl rfl
  | refresh | round | terminate | close => exact keeps_idle w

theorem keeps_engage (w : Watch) (goal : Goal) : Keeps w (w.engage goal).2 (w.engage goal).1 := by
  cases goal with
  | refresh => exact keeps_fetch w .refresh
  | round => exact keeps_fetch w .round
  | run => exact .of_none rfl rfl rfl (onTime_of_add _ rfl) rfl rfl
  | terminate => exact keeps_drain w .terminate
  | close => exact .of_none rfl rfl rfl (onTime_of_none rfl) rfl rfl

inductive Lead (w : Watch) : Watch → List Act → Prop where
  | awakes {due : Nat} (leader : w.leader = .sleeping due) : Lead w { w with leader := .idle } []
  | refreshes {began due : Nat} (leader : w.leader = .fetching .refresh began due) :
      Lead w { w.refresh.1 with leader := .idle } w.refresh.2
  | merges {goal : Goal} {began due : Nat} (leader : w.leader = .fetching goal began due)
      (rounds : goal ≠ .refresh) (come : due ≤ w.now) :
      Lead w (w.refresh.1.dispatch goal began).1
        (w.refresh.2 ++ (w.refresh.1.dispatch goal began).2)
  /-- The round is cancelled before a service has been sent. -/
  | stopsFetching {goal : Goal} {began due : Nat} (leader : w.leader = .fetching goal began due) :
      Lead w (w.refresh.1.endRound goal false).1
        (w.refresh.2 ++ (w.refresh.1.endRound goal false).2)
  | sends {goal : Goal} {began due : Nat} {pause : Clock.Duration} {m : Monitored}
      {rest : List Monitored} (leader : w.leader = .pacing goal began (m :: rest) pause due)
      (come : due ≤ w.now) :
      Lead w (w.send goal began pause m rest).1 (w.send goal began pause m rest).2
  | hasSent {goal : Goal} {began due : Nat} {pause : Clock.Duration}
      (leader : w.leader = .pacing goal began [] pause due) : Lead w (w.wait goal began) []
  | stopsSending {goal : Goal} {began due : Nat} {pause : Clock.Duration} {rest : List Monitored}
      (leader : w.leader = .pacing goal began rest pause due) :
      Lead w (w.endRound goal false).1 (w.endRound goal false).2
  | ends {goal : Goal} {due : Nat} (leader : w.leader = .waiting goal due) (come : due ≤ w.now) :
      Lead w (w.endRound goal true).1 (w.endRound goal true).2
  | stopsWaiting {goal : Goal} {due : Nat} (leader : w.leader = .waiting goal due) :
      Lead w (w.endRound goal false).1 (w.endRound goal false).2
  | drains {goal : Goal} {due : Nat} (leader : w.leader = .draining goal due) :
      Lead w { w with leader := .recording goal (w.now + w.policy.grace.millisUp) } []
  | aborts {goal : Goal} {due : Nat} (leader : w.leader = .draining goal due) :
      Lead w { w with pool := w.pool.abort, leader := .aborting goal } []
  | hasAborted {goal : Goal} (leader : w.leader = .aborting goal) :
      Lead w { w with leader := .recording goal (w.now + w.policy.grace.millisUp) } []
  | hasRecorded {goal : Goal} {due : Nat} (leader : w.leader = .recording goal due) :
      Lead w (w.endPool goal) []
  | dismisses {goal : Goal} {due : Nat} (leader : w.leader = .recording goal due) :
      Lead w ((w.dismiss .aborted).endPool goal) []
  | stops (leader : w.leader = .closing) :
      Lead w { w with leader := .idle, lifecycle := .stopped } [.entered .stopped]

/-- The leader takes no other steps. -/
theorem lead_of_moveLeader {w w' : Watch} {acts : List Act}
    (done : w.moveLeader = some (w', acts)) : Lead w w' acts := by
  unfold moveLeader at done
  split at done
  · cases done
  · rename_i leader
    split at done
    · cases done
    · cases done
      exact .awakes leader
  · rename_i goal began due leader
    split at done
    · cases done
    · rename_i come
      dsimp only at done
      split at done
      · cases done
        exact .refreshes leader
      · rename_i rounds
        split at done
        · cases done
          exact .stopsFetching leader
        · cases done
          exact .merges leader rounds (Nat.le_of_not_lt come)
  · rename_i leader
    split at done
    · obtain ⟨rfl, rfl⟩ := eq_of_done done
      exact .stopsSending leader
    · split at done
      · cases done
      · rename_i come
        split at done
        · cases done
          exact .hasSent leader
        · obtain ⟨rfl, rfl⟩ := eq_of_done done
          exact .sends leader (Nat.le_of_not_lt come)
  · rename_i leader
    split at done
    · obtain ⟨rfl, rfl⟩ := eq_of_done done
      exact .stopsWaiting leader
    · split at done
      · cases done
      · rename_i come
        obtain ⟨rfl, rfl⟩ := eq_of_done done
        exact .ends leader (Nat.le_of_not_lt come)
  · rename_i leader
    split at done
    · cases done
      exact .drains leader
    · split at done
      · cases done
      · cases done
        exact .aborts leader
  · rename_i leader
    split at done
    · cases done
      exact .hasAborted leader
    · cases done
  · rename_i leader
    split at done
    · cases done
      exact .hasRecorded leader
    · split at done
      · cases done
      · cases done
        exact .dismisses leader
  · rename_i leader
    split at done
    · cases done
      exact .stops leader
    · cases done

/-- No step of the leader loses a service on its way to the workers. -/
theorem Lead.keeps {w w' : Watch} {acts : List Act} (lead : Lead w w' acts) : Keeps w acts w' := by
  cases lead with
  | awakes => exact keeps_idle w
  | refreshes => exact .of_none rfl rfl rfl (onTime_of_none rfl) rfl rfl
  | merges => exact (keeps_refresh w).trans (keeps_dispatch _ _ _)
  | stopsFetching => exact (keeps_refresh w).trans (keeps_endRound _ _ _)
  | sends => exact keeps_send _ _ _ _ _ _
  | hasSent => exact keeps_wait _ _ _
  | stopsSending => exact keeps_endRound _ _ _
  | ends => exact keeps_endRound _ _ _
  | stopsWaiting => exact keeps_endRound _ _ _
  | drains | hasAborted => exact .of_none rfl rfl rfl (onTime_of_add _ rfl) rfl rfl
  | aborts | stops => exact .of_none rfl rfl rfl (onTime_of_none rfl) rfl rfl
  | hasRecorded => exact keeps_endPool _ _
  | dismisses => exact (keeps_dismiss w .aborted).trans (keeps_endPool _ _)

/-! ### Runs -/

/-- Something is done beside the leader, or the leader is set to work, or it takes its next step. -/
theorem act_cases {w w' : Watch} {d : Deed} {acts : List Act} (done : w.act? d = some (w', acts)) :
    Aside w acts w' ∨
      (∃ goal, d = .call goal ∧ w.leader = .idle ∧ w' = (w.engage goal).1 ∧
        acts = (w.engage goal).2) ∨
      Lead w w' acts := by
  cases other : d.byLeader with
  | false => exact .inl (aside_of_act? done other)
  | true =>
      cases d with
      | call goal =>
          simp only [act?] at done
          split at done
          · rename_i idle
            exact .inr (.inl ⟨goal, rfl, idle, eq_of_done done⟩)
          · cases done
      | move t =>
          cases t with
          | leader => exact .inr (.inr (lead_of_moveLeader done))
          | worker | recorder | writer | canceller => cases other
      | tick | restage | arm => cases other

/-- Whoever does something, the leader is not late, and the services go through the queue. -/
theorem keeps_of_act? {w w' : Watch} {d : Deed} {acts : List Act}
    (done : w.act? d = some (w', acts)) : Keeps w acts w' := by
  rcases act_cases done with aside | ⟨goal, -, -, rfl, rfl⟩ | lead
  · exact aside.toKeeps
  · exact keeps_engage w goal
  · exact lead.keeps

structure Moment where
  before : Watch
  deed : Deed
  acts : List Act
  after : Watch

/-- A run: all that is done from one moment on, the first deed first. -/
inductive Run : Watch → List Moment → Watch → Prop where
  | rest (w : Watch) : Run w [] w
  | step {w next w' : Watch} {d : Deed} {acts : List Act} {past : List Moment}
      (done : w.act? d = some (next, acts)) (run : Run next past w') :
      Run w (⟨w, d, acts, next⟩ :: past) w'

def sentIn (past : List Moment) : List Monitored := past.flatMap fun m => m.acts.filterMap Act.sent?

def tookIn (past : List Moment) : List Monitored := past.flatMap fun m => m.acts.filterMap Act.took?

@[simp] theorem sentIn_nil : sentIn [] = [] := rfl

@[simp] theorem sentIn_cons (m : Moment) (past : List Moment) :
    sentIn (m :: past) = m.acts.filterMap Act.sent? ++ sentIn past := rfl

@[simp] theorem sentIn_append (past later : List Moment) :
    sentIn (past ++ later) = sentIn past ++ sentIn later := List.flatMap_append

@[simp] theorem tookIn_cons (m : Moment) (past : List Moment) :
    tookIn (m :: past) = m.acts.filterMap Act.took? ++ tookIn past := rfl

section Runs

variable {w w' : Watch} {past : List Moment}

theorem Run.append {v : Watch} {later : List Moment} (run : Run w past v) (more : Run v later w') :
    Run w (past ++ later) w' := by
  induction run with
  | rest => exact more
  | step done _ ih => exact .step done (ih more)

/-- A run in two parts, and the deed with which the second one begins. -/
theorem Run.split {earlier later : List Moment} {m : Moment}
    (run : Run w (earlier ++ m :: later) w') :
    Run w earlier m.before ∧ m.before.act? m.deed = some (m.after, m.acts) ∧
      Run m.after later w' := by
  induction earlier generalizing w with
  | nil =>
      cases run with
      | step done run => exact ⟨.rest _, done, run⟩
  | cons first earlier ih =>
      cases run with
      | step done run =>
          obtain ⟨before, here, after⟩ := ih run
          exact ⟨.step done before, here, after⟩

theorem Run.keeps (run : Run w past w') (early : w.OnTime) :
    w'.policy = w.policy ∧ w.now ≤ w'.now ∧ w'.OnTime := by
  induction run with
  | rest => exact ⟨rfl, Nat.le_refl _, early⟩
  | step done _ ih =>
      have keeps := keeps_of_act? done
      obtain ⟨policy, later, onTime⟩ := ih (keeps.onTime early)
      exact ⟨policy.trans keeps.policy, Nat.le_trans keeps.later later, onTime⟩

/-- Workers take the services in the order in which they are sent, each once, or they are still in
the queue. -/
theorem Run.jobs (run : Run w past w') :
    w.pool.jobs ++ sentIn past = tookIn past ++ w'.pool.jobs := by
  induction run with
  | rest => exact List.append_nil _
  | @step w next w' d acts past done _ ih =>
      have keeps := keeps_of_act? done
      rw [sentIn_cons, tookIn_cons, ← List.append_assoc, keeps.jobs, List.append_assoc,
        ih, List.append_assoc]

/-- Others have acted, and the leader is where it was. -/
structure Waited (w u : Watch) : Prop where
  leader : u.leader = w.leader
  policy : u.policy = w.policy
  later : w.now ≤ u.now
  onTime : u.OnTime

/-- If the leader has to do with the last of some deeds, there is a first deed that is a step of
it. -/
theorem Run.leader_moves {inside : List Moment} {last : Moment} (run : Run w (inside ++ [last]) w')
    (early : w.OnTime) (busy : w.leader ≠ .idle) (led : ∃ act ∈ last.acts, act.byLeader = true) :
    ∃ calm m, sentIn calm = [] ∧ Waited w m.before ∧
      Lead m.before m.after m.acts ∧
      (inside = calm ∧ last = m ∨
        ∃ later, inside = calm ++ m :: later ∧ Run m.after (later ++ [last]) w') := by
  induction inside generalizing w with
  | nil =>
      cases run with
      | step done run =>
          rcases act_cases done with aside | ⟨_, -, idle, -⟩ | lead
          · obtain ⟨act, mem, mine⟩ := led
            rw [aside.acts act mem] at mine
            cases mine
          · exact absurd idle busy
          · exact ⟨[], _, rfl, ⟨rfl, rfl, Nat.le_refl _, early⟩, lead, .inl ⟨rfl, rfl⟩⟩
  | cons first inside ih =>
      cases run with
      | @step _ next _ d acts _ done run =>
          rcases act_cases done with aside | ⟨_, -, idle, -⟩ | lead
          · obtain ⟨calm, m, none, waited, moves, place⟩ :=
              ih run (aside.onTime early) (aside.leader ▸ busy)
            refine ⟨⟨w, d, acts, next⟩ :: calm, m, ?_, ?_, moves, ?_⟩
            · rw [sentIn_cons, aside.sent, none]
              rfl
            · exact ⟨waited.leader.trans aside.leader, waited.policy.trans aside.policy,
                Nat.le_trans aside.later waited.later, waited.onTime⟩
            · rcases place with ⟨rfl, rfl⟩ | ⟨later, rfl, more⟩
              · exact .inl ⟨rfl, rfl⟩
              · exact .inr ⟨later, rfl, more⟩
          · exact absurd idle busy
          · exact ⟨[], _, rfl, ⟨rfl, rfl, Nat.le_refl _, early⟩, lead, .inr ⟨inside, rfl, run⟩⟩

end Runs

def play? (w : Watch) : List Deed → Option (List Moment × Watch)
  | [] => some ([], w)
  | d :: rest => do
    let (next, acts) ← w.act? d
    let (past, w') ← next.play? rest
    return (⟨w, d, acts, next⟩ :: past, w')

/-- A schedule that can be played is a run. -/
theorem run_of_play? {w w' : Watch} (deeds : List Deed) {past : List Moment}
    (played : w.play? deeds = some (past, w')) : Run w past w' := by
  induction deeds generalizing w past with
  | nil =>
      cases played
      exact .rest _
  | cons d rest ih =>
      simp only [play?, Option.bind_eq_bind, Option.bind_eq_some_iff, Option.pure_def,
        Option.some.injEq, Prod.mk.injEq] at played
      obtain ⟨⟨next, acts⟩, done, ⟨tail, _⟩, more, rfl, rfl⟩ := played
      exact .step done (ih more)

/-- Where a schedule comes to something of a kind, there is a run that does. -/
theorem exists_run (w : Watch) (deeds : List Deed) (q : List Moment → Watch → Prop)
    [∀ past w', Decidable (q past w')] (happens : (w.play? deeds).any (fun r => q r.1 r.2) = true) :
    ∃ past w', Run w past w' ∧ q past w' := by
  obtain ⟨⟨past, w'⟩, played, check⟩ := (Option.any_eq_true _ _).mp happens
  exact ⟨past, w', run_of_play? deeds played, of_decide_eq_true check⟩

end Vigil.Watch
