import Vigil.Proofs.Watch.Ending

/-!
The pool at work. The tasks of a watch take their steps in any order, the leader is set to work when
it is idle, and until the pool is stopped, services may also be sent to it from outside, as often as
one likes. Each time a worker takes a service an execution begins, and a chronicle tells what
becomes of it.

Main definitions: `Shift.Run`; `Shift.Chronicle`, what has become of each execution so far. Main
statements: `Shift.effect_of_act?`, what each deed means for the executions; `Shift.Run.jobs`, the
services that are sent to the pool are taken in that order, each once.
-/

namespace Vigil.Shift

open Watch (Act Labor Recording Lead)

/-! ### Deeds -/

inductive Deed where
  /-- A service is sent to the pool from outside. -/
  | order (job : Monitored)
  | watch (d : Watch.Deed)

/-- What becomes of a watch by a deed, and what happens then, if it can be done. A service that is
sent to the pool has its live state in the roster, though perhaps no entry any more. -/
def act? (w : Watch) : Deed → Option (Watch × List Act)
  | .order job =>
    if w.pool.stopped = false ∧ job.cell < w.roster.lives.length then
      some ({ w with pool := w.pool.enqueue job }, [.sent job])
    else none
  | .watch d => w.act? d

structure Moment where
  before : Watch
  deed : Deed
  acts : List Act
  after : Watch

namespace Moment

def sent (m : Moment) : List Monitored := m.acts.filterMap Act.sent?

def took (m : Moment) : List Monitored := m.acts.filterMap Act.took?

def recorded (m : Moment) : List Finding := m.acts.filterMap fun
  | .recorded job v => some ⟨job, v⟩
  | _ => none

/-- The leader stops the pool and begins to wait for its workers. -/
def stops (m : Moment) : Bool :=
  !m.before.leader.isDraining && m.after.leader.isDraining

/-- The leader has waited for long enough, and tells the workers to drop what they do. -/
def aborts (m : Moment) : Bool :=
  m.before.leader.isDraining && m.after.leader.isAborting

def returns (m : Moment) : Bool :=
  m.before.leader.isRecording && !m.after.leader.isRecording

end Moment

/-- A run: all that is done from one moment on, the first deed first. -/
inductive Run : Watch → List Moment → Watch → Prop where
  | rest (w : Watch) : Run w [] w
  | step {w next w' : Watch} {d : Deed} {acts : List Act} {past : List Moment}
      (done : act? w d = some (next, acts)) (run : Run next past w') :
      Run w (⟨w, d, acts, next⟩ :: past) w'

/-! ### Executions -/

/-- An execution of a check, from the moment on at which a worker takes its service. -/
structure Course where
  /-- How many services have been taken before. -/
  number : Nat
  worker : Nat
  job : Monitored
  /-- How many verdicts had been recorded when its first run began, and the status of the service
  then. -/
  began : Option (Nat × Status)
  /-- The verdicts of its runs, that of a run under way included. -/
  runs : List Verdict
deriving DecidableEq

namespace Course

/-- Another run begins; what the worker is doing then tells its verdict. -/
def run (x : Course) (recorded : Nat) : Worker → Course
  | .checking e _ v => { x with
      began := x.began.or (some (recorded, e.previous))
      runs := x.runs ++ [v] }
  | _ => x

def taking (x : Course) : Monitored × Nat := (x.job, x.number)

/-- The verdict that it comes to, that of its last run. -/
def finding? (x : Course) : Option Finding := x.runs.getLast?.map fun v => ⟨x.job, v⟩

@[simp] theorem taking_run (x : Course) (recorded : Nat) (s : Worker) :
    (x.run recorded s).taking = x.taking := by
  cases s with
  | checking | seeking | inLine | listening | holding | pausing | doomed | finished | aborted => rfl

@[simp] theorem worker_run (x : Course) (recorded : Nat) (s : Worker) :
    (x.run recorded s).worker = x.worker := by
  cases s with
  | checking | seeking | inLine | listening | holding | pausing | doomed | finished | aborted => rfl

end Course

/-- What has become of the services that have been taken. -/
structure Chronicle where
  taken : List Monitored
  /-- The executions in progress. -/
  going : List Course
  /-- Those that have come to their verdicts, in that order. -/
  concluded : List Course
  aborted : List Course
  recorded : List Finding

namespace Chronicle

def blank : Chronicle := ⟨[], [], [], [], []⟩

/-- A worker takes a service, or goes on with the execution that it is at. -/
def work (k : Chronicle) (i : Nat) (m : Moment) : Chronicle :=
  match m.acts with
  | [.took job] => { k with
      taken := k.taken ++ [job]
      going := k.going ++ [⟨k.taken.length, i, job, none, []⟩] }
  | [.checked _] => { k with
      going := k.going.map fun x =>
        if x.worker = i then x.run k.recorded.length (m.after.pool.worker i) else x }
  | [.concluded ..] => { k with
      going := k.going.filter (·.worker ≠ i)
      concluded := k.concluded ++ k.going.filter (·.worker = i) }
  | _ => k

def abort (k : Chronicle) : Chronicle := { k with going := [], aborted := k.aborted ++ k.going }

def note (k : Chronicle) (m : Moment) : Chronicle :=
  match m.deed with
  | .watch (.move (.worker i)) => k.work i m
  | .watch (.move .recorder) => { k with recorded := k.recorded ++ m.recorded }
  | .watch (.move .leader) => if m.aborts then k.abort else k
  | _ => k

def courses (k : Chronicle) : List Course := k.going ++ k.concluded ++ k.aborted

end Chronicle

/-- What has become of the executions in the course of some moments. -/
def chronicle (past : List Moment) : Chronicle := past.foldl .note .blank

/-! ### What may be done -/

variable {w w' : Watch} {d : Deed} {acts : List Act}

inductive Doing (w : Watch) : Deed → Watch → List Act → Prop where
  | works {i : Nat} {w' : Watch} {acts : List Act} (labor : Labor w i w' acts) :
      Doing w (.watch (.move (.worker i))) w' acts
  | records {w' : Watch} {acts : List Act} (recording : Recording w w' acts) :
      Doing w (.watch (.move .recorder)) w' acts
  | leads {w' : Watch} {acts : List Act} (done : w.moveLeader = some (w', acts)) :
      Doing w (.watch (.move .leader)) w' acts
  | engages {goal : Watch.Goal} (idle : w.leader = .idle) :
      Doing w (.watch (.call goal)) (w.engage goal).1 (w.engage goal).2
  | ticks {now : Nat} (early : Watch.OnTime { w with now }) :
      Doing w (.watch (.tick now)) { w with now } []
  /-- It has to do neither with the leader nor with the clock, and in the pool with the queue
  alone. -/
  | rests {d : Deed} {w' : Watch} {acts : List Act}
      (note : ∀ k : Chronicle, k.note ⟨w, d, acts, w'⟩ = k)
      (took : acts.filterMap Act.took? = [])
      (sent : ∀ job ∈ acts.filterMap Act.sent?, job.cell < w.roster.lives.length)
      (leader : w'.leader = w.leader) (now : w'.now = w.now)
      (pool : w'.pool = { w.pool with jobs := w'.pool.jobs }) (roster : w'.roster = w.roster) :
      Doing w d w' acts

/-- A deed that can be done is one of those that are listed. -/
theorem doing_of_act? (done : act? w d = some (w', acts)) : Doing w d w' acts := by
  cases d with
  | order job =>
      simp only [act?] at done
      split at done
      · rename_i posted
        cases done
        exact .rests (fun _ => rfl) rfl (List.forall_mem_singleton.mpr posted.2) rfl rfl rfl rfl
      · cases done
  | watch d =>
      have done : w.act? d = some (w', acts) := done
      cases d with
      | call goal =>
          simp only [Watch.act?] at done
          split at done
          · rename_i idle
            obtain ⟨rfl, rfl⟩ := Watch.eq_of_done done
            exact .engages idle
          · cases done
      | move t =>
          cases t with
          | leader => exact .leads done
          | worker i => exact .works (Watch.labor_of_moveWorker done)
          | recorder => exact .records (Watch.recording_of_moveRecorder done)
          | writer =>
              obtain ⟨⟨turn, written⟩, -, same⟩ := Option.map_eq_some_iff.mp done
              cases same
              have none {α : Type} (f : Act → Option α) (others : ∀ act, f (.wrote act) = none) :
                  (written.map Act.wrote).filterMap f = [] := by
                simp [others]
              refine .rests (fun _ => rfl) (none _ fun _ => rfl) ?_ rfl rfl rfl rfl
              rw [none _ fun _ => rfl]
              exact List.forall_mem_nil _
          | canceller =>
              simp only [Watch.act?, Watch.move, Watch.moveCanceller] at done
              split at done
              · cases done
              · split at done
                · cases done
                · cases done
                  exact .rests (fun _ => rfl) rfl (List.forall_mem_nil _) rfl rfl rfl rfl
      | tick =>
          simp only [Watch.act?] at done
          split at done
          · rename_i waits
            cases done
            refine .ticks fun due here => ?_
            have early := waits.2.2
            rw [show w.due? .leader = some due from here] at early
            exact of_decide_eq_true early
          · cases done
      | restage | arm =>
          cases done
          exact .rests (fun _ => rfl) rfl (List.forall_mem_nil _) rfl rfl rfl rfl

/-! ### What becomes of executions -/

/-- Nobody in the pool does anything else than before. -/
structure SameHands (p p' : Pool) : Prop where
  workers : p'.workers = p.workers
  line : p'.line = p.line
  findings : p'.findings = p.findings
  confirmation : p'.confirmation = p.confirmation

/-- What is neither done by workers and the recorder nor to the workers. -/
structure Quiet (w : Watch) (d : Deed) (acts : List Act) (w' : Watch) : Prop where
  note : ∀ k : Chronicle, k.note ⟨w, d, acts, w'⟩ = k
  took : acts.filterMap Act.took? = []
  hands : SameHands w.pool w'.pool
  lives : w.roster.lives <+: w'.roster.lives
  sound : w.roster.Sound → w'.roster.Sound

/-- What a deed means for the executions. -/
inductive Effect (w : Watch) : Deed → Watch → List Act → Prop where
  | works {i : Nat} {w' : Watch} {acts : List Act} (labor : Labor w i w' acts) :
      Effect w (.watch (.move (.worker i))) w' acts
  | records {w' : Watch} {acts : List Act} (recording : Recording w w' acts) :
      Effect w (.watch (.move .recorder)) w' acts
  | aborts {goal : Watch.Goal} (going : w.pool.isOver = false)
      (note : ∀ k : Chronicle, k.note ⟨w, .watch (.move .leader), [],
        { w with pool := w.pool.abort, leader := .aborting goal }⟩ = k.abort) :
      Effect w (.watch (.move .leader))
        { w with pool := w.pool.abort, leader := .aborting goal } []
  | nothing {d : Deed} {w' : Watch} {acts : List Act}
      (quiet : Quiet w d acts w') : Effect w d w' acts

/-- What the leader does has no part in the executions, unless it aborts them. -/
theorem quiet_of_moveLeader (done : w.moveLeader = some (w', acts))
    (calm : w.leader.isDraining = false ∨ w'.leader.isAborting = false)
    (hands : SameHands w.pool w'.pool) (lives : w.roster.lives <+: w'.roster.lives)
    (sound : w.roster.Sound → w'.roster.Sound) : Quiet w (.watch (.move .leader)) acts w' := by
  have calm : (Moment.mk w (.watch (.move .leader)) acts w').aborts = false :=
    Bool.and_eq_false_iff.mpr calm
  refine ⟨fun k => if_neg (Bool.eq_false_iff.mp calm), ?_, hands, lives, sound⟩
  refine List.filterMap_eq_nil_iff.mpr fun act mem => ?_
  have mine := (Watch.lead_of_moveLeader done).byLeader act mem
  cases act with
  | took => cases mine
  | fetched | merged | sent | rounded | checked | concluded | recorded | cancelled | entered
  | wrote => rfl

/-- Of all that the leader does only the abort means something for the executions. -/
theorem effect_of_moveLeader (done : w.moveLeader = some (w', acts)) :
    Effect w (.watch (.move .leader)) w' acts := by
  cases ending : w.leader.isEnding with
  | false =>
      have calm := Watch.Leader.not_isDraining ending
      rcases Watch.lead_of_rounds (Watch.lead_of_moveLeader done) ending with rounds | ⟨turns, -⟩
      · refine .nothing (quiet_of_moveLeader done (.inl calm) ?_ rounds.lives rounds.sound)
        rw [rounds.pool]
        exact ⟨rfl, rfl, rfl, rfl⟩
      · refine .nothing (quiet_of_moveLeader done (.inl calm) ?_ turns.lives turns.sound)
        rw [turns.pool]
        exact ⟨rfl, rfl, rfl, rfl⟩
  | true =>
      have ended {u : Watch} {goal : Watch.Goal} (done : w.moveLeader = some (u.endPool goal, []))
          (hands : SameHands w.pool u.pool) (roster : u.roster = w.roster) :
          Effect w (.watch (.move .leader)) (u.endPool goal) [] := by
        rcases Watch.endPool_cases u goal with same | same
        all_goals
          rw [same] at done ⊢
          exact .nothing (quiet_of_moveLeader done (.inr rfl) hands (roster ▸ List.prefix_rfl)
            (roster ▸ id))
      cases Watch.closing_of_moveLeader done ending with
      | aborts leader going => exact .aborts going fun k => if_pos (by simp [Moment.aborts, leader,
          Watch.Leader.isDraining, Watch.Leader.isAborting])
      | drains | hasAborted | stops =>
          exact .nothing (quiet_of_moveLeader done (.inr rfl)
            ⟨rfl, rfl, rfl, rfl⟩ List.prefix_rfl id)
      | hasRecorded | dismisses => exact ended done ⟨rfl, rfl, rfl, rfl⟩ rfl

/-- Every deed has one of the effects. -/
theorem Doing.effect (doing : Doing w d w' acts) : Effect w d w' acts := by
  cases doing with
  | works labor => exact .works labor
  | records recording => exact .records recording
  | leads done => exact effect_of_moveLeader done
  | @engages goal =>
      cases goal with
      | refresh | round | run | terminate | close =>
          exact .nothing ⟨fun _ => rfl, rfl, ⟨rfl, rfl, rfl, rfl⟩, List.prefix_rfl, id⟩
  | ticks => exact .nothing ⟨fun _ => rfl, rfl, ⟨rfl, rfl, rfl, rfl⟩, List.prefix_rfl, id⟩
  | rests note took _ _ _ pool roster =>
      refine .nothing ⟨note, took, ?_, ?_, ?_⟩
      · rw [pool]
        exact ⟨rfl, rfl, rfl, rfl⟩
      · exact roster ▸ List.prefix_rfl
      · exact roster ▸ id

theorem effect_of_act? (done : act? w d = some (w', acts)) : Effect w d w' acts :=
  (doing_of_act? done).effect

/-- What is taken is entered. -/
theorem Effect.taken (effect : Effect w d w' acts) (k : Chronicle) :
    (k.note ⟨w, d, acts, w'⟩).taken = k.taken ++ acts.filterMap Act.took? := by
  cases effect with
  | works labor =>
      cases labor with
      | seeks | leaves | begins | pauses | concludes | repeats | drops =>
          exact (List.append_nil _).symm
      | takes => rfl
  | records recording =>
      cases recording with
      | records | finishes => exact (List.append_nil _).symm
  | aborts _ note =>
      rw [note]
      exact (List.append_nil _).symm
  | nothing quiet => rw [quiet.note, quiet.took, List.append_nil]

/-! ### Runs -/

section Runs

variable {past : List Moment}

/-- What each moment of a kind keeps, a run of such moments keeps. -/
theorem Run.keeps {p : Watch → Chronicle → Prop} {q : Moment → Prop}
    (step : ∀ {m : Moment} {k : Chronicle}, act? m.before m.deed = some (m.after, m.acts) → q m →
      p m.before k → p m.after (k.note m))
    (run : Run w past w') (each : ∀ m ∈ past, q m) {k : Chronicle} (start : p w k) :
    p w' (past.foldl .note k) := by
  induction run generalizing k with
  | rest => exact start
  | step done _ ih =>
      rw [List.forall_mem_cons] at each
      exact ih each.2 (step done each.1 start)

/-- A run in two parts, and the deed with which the second one begins. -/
theorem Run.split {earlier later : List Moment} {m : Moment}
    (run : Run w (earlier ++ m :: later) w') :
    Run w earlier m.before ∧ act? m.before m.deed = some (m.after, m.acts) ∧
      Run m.after later w' := by
  induction earlier generalizing w with
  | nil =>
      cases run with
      | step done run => exact ⟨.rest _, done, run⟩
  | cons first earlier ih =>
      cases run with
      | step done run =>
          obtain ⟨before, here, after⟩ := ih run
          exact ⟨.step done before, here, after⟩

/-- The queue is served from the front and filled at the end. -/
theorem jobs_of_act? (done : act? w d = some (w', acts)) :
    w.pool.jobs ++ acts.filterMap Act.sent? = acts.filterMap Act.took? ++ w'.pool.jobs := by
  cases d with
  | order job =>
      simp only [act?] at done
      split at done
      · cases done
        rfl
      · cases done
  | watch d => exact (Watch.keeps_of_act? done).jobs

/-- Workers take the services in the order in which they are sent, each once, or they are still in
the queue. -/
theorem Run.jobs (run : Run w past w') :
    w.pool.jobs ++ past.flatMap Moment.sent = past.flatMap Moment.took ++ w'.pool.jobs := by
  induction run with
  | rest => exact List.append_nil _
  | @step w next w' d acts past done _ ih =>
      rw [List.flatMap_cons, List.flatMap_cons, ← List.append_assoc, Moment.sent, jobs_of_act? done,
        List.append_assoc, ih, Moment.took, List.append_assoc]

/-- The pool keeps its size and its settings. -/
theorem frame_of_act? (done : act? w d = some (w', acts)) :
    w'.pool.workers.length = w.pool.workers.length ∧
    w'.pool.confirmation = w.pool.confirmation := by
  cases effect_of_act? done with
  | works labor => exact ⟨labor.frame.size, labor.frame.confirmation⟩
  | records recording =>
      cases recording with
      | records | finishes => exact ⟨rfl, rfl⟩
  | aborts => exact ⟨List.length_map _, rfl⟩
  | nothing quiet => exact ⟨by rw [quiet.hands.workers], quiet.hands.confirmation⟩

theorem Run.frame (run : Run w past w') :
    w'.pool.workers.length = w.pool.workers.length ∧
    w'.pool.confirmation = w.pool.confirmation := by
  induction run with
  | rest => exact ⟨rfl, rfl⟩
  | step done _ ih =>
      obtain ⟨size, confirmation⟩ := frame_of_act? done
      exact ⟨ih.1.trans size, ih.2.trans confirmation⟩

theorem Run.taken (run : Run w past w') (k : Chronicle) :
    (past.foldl .note k).taken = k.taken ++ past.flatMap Moment.took := by
  induction run generalizing k with
  | rest => exact (List.append_nil _).symm
  | step done _ ih =>
      rw [List.foldl_cons, ih, (effect_of_act? done).taken, List.append_assoc]
      rfl

end Runs

def play? (w : Watch) : List Deed → Option (List Moment × Watch)
  | [] => some ([], w)
  | d :: rest => do
    let (next, acts) ← act? w d
    let (past, w') ← play? next rest
    return (⟨w, d, acts, next⟩ :: past, w')

/-- A schedule that can be played is a run. -/
theorem run_of_play? (deeds : List Deed) {past : List Moment}
    (played : play? w deeds = some (past, w')) : Run w past w' := by
  induction deeds generalizing w past with
  | nil =>
      cases played
      exact .rest _
  | cons d rest ih =>
      simp only [play?, Option.bind_eq_bind, Option.bind_eq_some_iff, Option.pure_def,
        Option.some.injEq, Prod.mk.injEq] at played
      obtain ⟨⟨next, acts⟩, done, ⟨tail, _⟩, more, rfl, rfl⟩ := played
      exact .step done (ih more)

/-- Where a schedule comes to something of a kind, there is a run that does. -/
theorem exists_run (w : Watch) (deeds : List Deed) (q : List Moment → Watch → Prop)
    [∀ past w', Decidable (q past w')] (happens : (play? w deeds).any (fun r => q r.1 r.2) = true) :
    ∃ past w', Run w past w' ∧ q past w' := by
  obtain ⟨⟨past, w'⟩, played, check⟩ := (Option.any_eq_true _ _).mp happens
  exact ⟨past, w', run_of_play? deeds played, of_decide_eq_true check⟩

end Vigil.Shift
