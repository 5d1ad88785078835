import Vigil.Proofs.Watch.Run
import Vigil.Watch.Rehearsal

/-!
Rehearsals are runs. The order in which a rehearsal lets the tasks take their steps is one of the
orders that a run may have, and its clock never passes a moment for which somebody waits.

Main statements: `Watch.due?_of_move`, a step of a task changes for no other one the moment for
which it waits; `Rehearsal.run_of_lead`, what the leader is set to in a rehearsal is done in a run.
-/

namespace Vigil

namespace Watch

variable {w w' : Watch} {acts : List Act} {due : Nat}

/-! ### Moments for which tasks wait -/

/-- A leader that does not go on waits for a moment that is yet to come. -/
theorem lt_due_of_moveLeader (waits : w.due? .leader = some due) (stuck : w.moveLeader = none) :
    w.now < due := by
  refine Nat.lt_of_not_le fun come => ?_
  have come := Nat.not_lt.mpr come
  simp only [due?] at waits
  unfold moveLeader at stuck
  split at waits <;> cases waits
  · rename_i leader
    simp [leader, come] at stuck
  · rename_i goal _ leader
    simp only [leader, if_neg come] at stuck
    cases goal with
    | refresh => cases stuck
    | round | run | terminate | close =>
        dsimp only at stuck
        split at stuck
        · cases stuck
        · cases stuck
  · rename_i rest _ leader
    simp only [leader, if_neg come] at stuck
    cases rest with
    | nil => split at stuck <;> cases stuck
    | cons => split at stuck <;> cases stuck
  · rename_i leader
    simp only [leader, if_neg come] at stuck
    split at stuck <;> cases stuck
  · rename_i leader
    simp only [leader, if_neg come] at stuck
    split at stuck <;> cases stuck
  · rename_i leader
    simp only [leader, if_neg come] at stuck
    split at stuck <;> cases stuck

/-- A writer that waits and cannot go on is not yet due. -/
theorem lt_due_of_moveWriter (waits : w.writer.due? = some due) (stuck : w.moveWriter = none) :
    w.now < due := by
  have stuck := Option.map_eq_none_iff.mp stuck
  simp only [Writer.due?] at waits
  unfold Writer.move at stuck
  split at waits
  · rename_i phase
    cases waits
    simpa [phase] using stuck
  · rename_i phase
    cases waits
    simp only [phase] at stuck
    split at stuck
    · cases stuck
    · simpa using stuck
  · rename_i phase
    cases waits
    simp only [phase] at stuck
    split at stuck
    · cases stuck
    · split at stuck
      · cases stuck
      · omega
  · cases waits

/-- A task that does not go on waits for a moment that is yet to come. -/
theorem lt_due_of_none {t : Task} (waits : w.due? t = some due) (stuck : w.move t = none) :
    w.now < due := by
  cases t with
  | leader => exact lt_due_of_moveLeader waits stuck
  | worker i =>
      refine Nat.lt_of_not_le fun come => ?_
      have come := Nat.not_lt.mpr come
      simp only [move, moveWorker] at stuck
      simp only [due?, Worker.due?] at waits
      split at waits
      · rename_i worker
        cases waits
        simp only [worker, if_neg come] at stuck
        split at stuck <;> cases stuck
      · rename_i worker
        cases waits
        simp [worker, come] at stuck
      · cases waits
  | recorder => cases waits
  | writer => exact lt_due_of_moveWriter waits stuck
  | canceller =>
      simp only [due?] at waits
      simpa [move, moveCanceller, waits] using stuck

/-- A step changes for nobody else the moment for which he waits, unless it has him wait no more. -/
structure Leaves (w w' : Watch) : Prop where
  now : w'.now = w.now
  workers : ∀ i due, (w'.pool.worker i).due? = some due → (w.pool.worker i).due? = some due
  writer : w'.writer.phase = w.writer.phase
  alarm : w'.alarm = w.alarm

theorem Leaves.refl (w : Watch) : Leaves w w := ⟨rfl, fun _ _ waits => waits, rfl, rfl⟩

theorem Leaves.trans {w'' : Watch} (first : Leaves w w') (second : Leaves w' w'') :
    Leaves w w'' where
  now := second.now.trans first.now
  workers i due waits := first.workers i due (second.workers i due waits)
  writer := second.writer.trans first.writer
  alarm := second.alarm.trans first.alarm

/-- A step leaves the others alone if it does not touch the workers. -/
theorem Leaves.of_workers (now : w'.now = w.now) (workers : w'.pool.workers = w.pool.workers)
    (writer : w'.writer.phase = w.writer.phase) (alarm : w'.alarm = w.alarm) : Leaves w w' := by
  refine ⟨now, fun i due waits => ?_, writer, alarm⟩
  rw [Pool.worker, workers] at waits
  exact waits

theorem leaves_send (w : Watch) (goal : Goal) (began : Nat) (pause : Clock.Duration) (m : Monitored)
    (rest : List Monitored) : Leaves w (w.send goal began pause m rest).1 := by
  cases rest with
  | nil => exact .of_workers rfl rfl rfl rfl
  | cons => exact .of_workers rfl rfl rfl rfl

theorem leaves_dispatch (w : Watch) (goal : Goal) (began : Nat) :
    Leaves w (w.dispatch goal began).1 := by
  unfold dispatch
  split
  · exact .of_workers rfl rfl rfl rfl
  · exact leaves_send w goal began _ _ _

theorem leaves_endRound (w : Watch) (goal : Goal) (more : Bool) :
    Leaves w (w.endRound goal more).1 := by
  cases goal with
  | run =>
      cases more with
      | true => exact .of_workers rfl rfl rfl rfl
      | false => exact .of_workers rfl rfl rfl rfl
  | refresh | round | terminate | close => exact .of_workers rfl rfl rfl rfl

theorem leaves_endPool (w : Watch) (goal : Goal) : Leaves w (w.endPool goal) := by
  cases goal with
  | run | refresh | round | terminate | close => exact .of_workers rfl rfl rfl rfl

theorem leaves_abort (w : Watch) (goal : Goal) :
    Leaves w { w with pool := w.pool.abort, leader := .aborting goal } := by
  refine ⟨rfl, fun i due waits => ?_, rfl, rfl⟩
  simp only [Pool.worker, Pool.abort, List.getElem?_map] at waits ⊢
  cases here : w.pool.workers[i]? with
  | none =>
      rw [here] at waits
      exact waits
  | some s =>
      simp only [here, Option.map_some, Option.getD_some] at waits ⊢
      split at waits
      · exact waits
      · cases waits

/-- The leader leaves the others alone. -/
theorem Lead.leaves (lead : Lead w w' acts) : Leaves w w' := by
  have refreshed : Leaves w w.refresh.1 := .of_workers rfl rfl rfl rfl
  cases lead with
  | awakes | refreshes | hasSent | drains | hasAborted | stops => exact .of_workers rfl rfl rfl rfl
  | merges => exact refreshed.trans (leaves_dispatch _ _ _)
  | stopsFetching => exact refreshed.trans (leaves_endRound _ _ _)
  | sends => exact leaves_send _ _ _ _ _ _
  | stopsSending | ends | stopsWaiting => exact leaves_endRound _ _ _
  | aborts => exact leaves_abort w _
  | hasRecorded => exact leaves_endPool _ _
  | dismisses =>
      have dismissed : Leaves w (w.dismiss .aborted) := .of_workers rfl rfl rfl rfl
      exact dismissed.trans (leaves_endPool _ _)

/-! ### Workers -/

theorem worker_set_of_ne (p : Pool) {i j : Nat} (ne : j ≠ i) (s : Worker) :
    (p.set i s).worker j = p.worker j := by
  simp [Pool.worker, Pool.set, Ne.symm ne]

/-- Where a worker goes on to something for which it does not wait, nobody waits who has not
waited. -/
theorem due?_of_set {p : Pool} {i j : Nat} {s : Worker} (none : s.due? = none)
    (waits : ((p.set i s).worker j).due? = some due) : (p.worker j).due? = some due := by
  by_cases same : j = i
  · subst same
    simp only [Pool.worker, Pool.set, List.getElem?_set, if_true] at waits ⊢
    split at waits
    · rw [Option.getD_some, none] at waits
      cases waits
    · cases waits
  · rwa [worker_set_of_ne p same] at waits

theorem due?_of_seek {p : Pool} {i j : Nat} (waits : ((p.seek i).worker j).due? = some due) :
    (p.worker j).due? = some due := by
  unfold Pool.seek at waits
  split at waits
  · exact due?_of_set (s := .inLine) rfl waits
  · exact due?_of_set (s := .listening) rfl waits

theorem due?_of_yieldTurn {p : Pool} {j : Nat} (waits : (p.yieldTurn.worker j).due? = some due) :
    (p.worker j).due? = some due := by
  unfold Pool.yieldTurn at waits
  split at waits
  · exact waits
  · exact due?_of_set (s := .listening) rfl waits

theorem due?_of_listen {p pool : Pool} {i j : Nat} (done : p.listen i = some pool)
    (waits : (pool.worker j).due? = some due) : (p.worker j).due? = some due := by
  unfold Pool.listen at done
  split at done
  · cases done
    exact due?_of_set (s := .finished) rfl (due?_of_yieldTurn waits)
  · split at done
    · cases done
    · rename_i job _ _
      cases done
      have before := due?_of_yieldTurn waits
      exact due?_of_set (p := p) (s := .holding job) rfl before

/-- A worker leaves the other workers alone, and the writer and the alarm as well. -/
theorem of_moveWorker {i : Nat} (done : w.moveWorker i = some (w', acts)) :
    (∀ j due, j ≠ i → (w'.pool.worker j).due? = some due → (w.pool.worker j).due? = some due) ∧
      w'.writer = w.writer ∧ w'.alarm = w.alarm ∧ w'.now = w.now := by
  have sets (s : Worker) (j : Nat) (due : Nat) (ne : j ≠ i)
      (waits : ((w.pool.set i s).worker j).due? = some due) :
      (w.pool.worker j).due? = some due := by
    rwa [worker_set_of_ne _ ne] at waits
  unfold moveWorker at done
  split at done
  · cases done
    exact ⟨fun j due _ => due?_of_seek, rfl, rfl, rfl⟩
  · cases done
  · cases done
  · cases done
  · obtain ⟨pool, taken, same⟩ := Option.map_eq_some_iff.mp done
    cases same
    exact ⟨fun j due _ => due?_of_listen taken, rfl, rfl, rfl⟩
  · cases done
    exact ⟨sets _, rfl, rfl, rfl⟩
  · split at done
    · cases done
    · split at done
      · cases done
        exact ⟨sets _, rfl, rfl, rfl⟩
      · cases done
        exact ⟨sets .seeking, rfl, rfl, rfl⟩
  · split at done
    · cases done
    · cases done
      exact ⟨sets _, rfl, rfl, rfl⟩
  · cases done
    exact ⟨sets .aborted, rfl, rfl, rfl⟩

theorem leaves_of_moveRecorder (done : w.moveRecorder = some (w', acts)) : Leaves w w' := by
  have accepts (events : List Event) (x : Writer) :
      (events.foldl Writer.accept x).phase = x.phase := by
    induction events generalizing x with
    | nil => rfl
    | cons e rest ih =>
        rw [List.foldl_cons, ih, Writer.accept]
        split <;> rfl
  unfold moveRecorder at done
  split at done
  · cases done
  · split at done
    · cases done
      exact .of_workers rfl rfl (accepts _ _) rfl
    · split at done
      · cases done
        exact .of_workers rfl rfl rfl rfl
      · cases done

/-- Whoever waits after a step waited for the same moment before it. -/
theorem Leaves.due? {t : Task} (leaves : Leaves w w') (other : t ≠ .leader)
    (waits : w'.due? t = some due) : w.due? t = some due := by
  cases t with
  | leader => exact absurd rfl other
  | worker i => exact leaves.workers i due waits
  | recorder => cases waits
  | writer =>
      simp only [Watch.due?, Writer.due?, leaves.writer] at waits ⊢
      exact waits
  | canceller =>
      rw [Watch.due?, leaves.alarm] at waits
      exact waits

/-- Time does not pass in a step. -/
theorem now_of_move {t : Task} (done : w.move t = some (w', acts)) : w'.now = w.now := by
  cases t with
  | leader => exact (lead_of_moveLeader done).leaves.now
  | worker i => exact (of_moveWorker done).2.2.2
  | recorder => exact (leaves_of_moveRecorder done).now
  | writer =>
      obtain ⟨⟨writer, written⟩, -, same⟩ := Option.map_eq_some_iff.mp done
      cases same
      rfl
  | canceller =>
      simp only [move, moveCanceller] at done
      split at done
      · cases done
      · split at done
        · cases done
        · cases done
          rfl

/-- A step of a task changes for no other one the moment for which it waits, unless it has it wait
no more. -/
theorem due?_of_move {t t' : Task} (other : t' ≠ t) (done : w.move t = some (w', acts))
    (waits : w'.due? t' = some due) : w.due? t' = some due := by
  cases t with
  | leader => exact (lead_of_moveLeader done).leaves.due? other waits
  | worker i =>
      obtain ⟨workers, writer, alarm, -⟩ := of_moveWorker done
      cases t' with
      | leader => exact due?_leader_congr (aside_of_move other.symm done).leader ▸ waits
      | worker j => exact workers j due (fun same => other (congrArg Task.worker same)) waits
      | recorder => cases waits
      | writer => rwa [Watch.due?, writer] at waits
      | canceller => rwa [Watch.due?, alarm] at waits
  | recorder =>
      cases t' with
      | leader => exact due?_leader_congr (aside_of_move other.symm done).leader ▸ waits
      | worker | recorder | writer | canceller =>
          exact (leaves_of_moveRecorder done).due? (by rintro ⟨⟩) waits
  | writer =>
      obtain ⟨⟨writer, written⟩, -, same⟩ := Option.map_eq_some_iff.mp done
      cases same
      cases t' with
      | writer => exact absurd rfl other
      | leader | worker | recorder | canceller => exact waits
  | canceller =>
      simp only [move, moveCanceller] at done
      split at done
      · cases done
      · split at done
        · cases done
        · cases done
          cases t' with
          | canceller => exact absurd rfl other
          | leader | worker | recorder | writer => exact waits

theorem leaves_engage (w : Watch) (goal : Goal) : Leaves w (w.engage goal).1 := by
  cases goal with
  | refresh | round | run | terminate | close => exact .of_workers rfl rfl rfl rfl

/-- Whether a deed is a step of a task or one of the clock. -/
def Deed.goesOn : Deed → Bool
  | .move _ | .tick _ => true
  | _ => false

/-- What happens in some deeds, and when. -/
def logOf (past : List Moment) : List (Nat × Act) :=
  past.flatMap fun m => m.acts.map fun act => (m.after.now, act)

theorem logOf_append (past later : List Moment) :
    logOf (past ++ later) = logOf past ++ logOf later :=
  List.flatMap_append

end Watch

namespace Rehearsal

open Vigil.Watch

variable {r r' : Rehearsal}

/-! ### Steps of a rehearsal -/

/-- Whoever waits for the clock, but for the one that is going on, is known to, and has not missed
his moment. -/
structure Clocked (r : Rehearsal) : Prop where
  leader : r.current ≠ some .leader → ∀ due, r.watch.due? .leader = some due → .leader ∈ r.clocked
  dues : ∀ t ∈ r.clocked, r.current ≠ some t → ∀ due, r.watch.due? t = some due → r.watch.now ≤ due
  rests : r.watch.leader = .idle → ∀ t, r.current = some t → t = .leader

def Goes (r r' : Rehearsal) : Prop :=
  ∃ past, Watch.Run r.watch past r'.watch ∧ (∀ m ∈ past, m.deed.goesOn = true) ∧
    r'.history = r.history ++ logOf past

theorem Goes.of_same (watch : r'.watch = r.watch) (log : r'.log = r.log) : Goes r r' :=
  ⟨[], watch ▸ .rest _, fun _ mem => (nomatch mem), by simp [history, log, logOf]⟩

theorem Goes.trans {r'' : Rehearsal} (first : Goes r r') (second : Goes r' r'') : Goes r r'' := by
  obtain ⟨past, run, goes, log⟩ := first
  obtain ⟨later, more, goes', log'⟩ := second
  refine ⟨past ++ later, run.append more, List.forall_mem_append.mpr ⟨goes, goes'⟩, ?_⟩
  rw [log', log, logOf_append, List.append_assoc]

/-- One deed of a run. -/
theorem Goes.of_act? {d : Deed} (acts : List Act) (goesOn : d.goesOn = true)
    (done : r.watch.act? d = some (r'.watch, acts))
    (log : r'.log = (acts.map fun act => (r'.watch.now, act)).reverse ++ r.log) : Goes r r' := by
  refine ⟨[⟨r.watch, d, acts, r'.watch⟩], .step done (.rest _), ?_, ?_⟩
  · exact List.forall_mem_singleton.mpr goesOn
  · simp [history, log, logOf]

/-- A task takes a step. -/
theorem of_moved {t : Task} {watch : Watch} {acts : List Act} (clocked : r.Clocked)
    (busy : r.watch.leader ≠ .idle) (current : r.current = some t)
    (done : r.watch.move t = some (watch, acts)) {log : List (Nat × Act)}
    (told : log = (acts.map fun act => (watch.now, act)).reverse ++ r.log) :
    Goes r ({ r with watch, log } : Rehearsal).joinQueue ∧
      ({ r with watch, log } : Rehearsal).joinQueue.Clocked := by
  refine ⟨.of_act? (d := .move t) acts rfl done told, ?_, ?_, ?_⟩
  · intro other due waits
    have other : Task.leader ≠ t := fun same => other (by rw [same]; exact current)
    refine clocked.leader ?_ due (due?_of_move other done waits)
    rw [current]
    exact fun same => other (Option.some.inj same).symm
  · intro t' mem other due waits
    have other' : t' ≠ t := fun same => other (by rw [same]; exact current)
    change watch.now ≤ due
    rw [now_of_move done]
    exact clocked.dues t' mem other due (due?_of_move other' done waits)
  · intro idle t' same
    cases current.symm.trans same
    by_cases leader : t = .leader
    · exact leader
    · exact absurd ((aside_of_move leader done).leader.symm.trans idle) busy

/-- A task that has to wait is known to. -/
theorem Clocked.suspend {t : Task} (clocked : r.Clocked) (current : r.current = some t)
    (stuck : r.watch.move t = none) : (r.suspend t).Clocked := by
  have mem_cases {t' : Task} (mem : t' ∈ (r.suspend t).clocked) : t' = t ∨ t' ∈ r.clocked := by
    simp only [Rehearsal.suspend] at mem
    split at mem
    · rcases List.mem_append.mp mem with mem | mem
      · exact .inr (List.mem_of_mem_erase mem)
      · exact .inl (List.mem_singleton.mp mem)
    · exact .inr (List.mem_of_mem_erase mem)
  refine ⟨?_, ?_, fun _ _ same => nomatch same⟩
  · intro _ due waits
    change r.watch.due? .leader = some due at waits
    by_cases same : t = .leader
    · subst same
      simp [Rehearsal.suspend, waits]
    · have known :=
        clocked.leader (by rw [current]; exact fun h => same (Option.some.inj h)) due waits
      have kept := (List.mem_erase_of_ne (Ne.symm same)).mpr known
      simp only [Rehearsal.suspend]
      split
      · exact List.mem_append_left _ kept
      · exact kept
  · intro t' mem _ due waits
    by_cases same : t' = t
    · subst same
      exact Nat.le_of_lt (lt_due_of_none waits stuck)
    · have known := (mem_cases mem).resolve_left same
      exact clocked.dues t' known
        (by rw [current]; exact fun h => same (Option.some.inj h).symm) due waits

/-- A task that is able to go on does so. -/
theorem Clocked.resume {t : Task} (queue : List Task) (clocked : r.Clocked)
    (busy : r.watch.leader ≠ .idle) (current : r.current = none) :
    ({ r with current := some t, queue } : Rehearsal).Clocked := by
  refine ⟨?_, ?_, fun idle => absurd idle busy⟩
  · intro _
    exact clocked.leader (by rw [current]; exact nofun)
  · intro t' mem _
    exact clocked.dues t' mem (by rw [current]; exact nofun)

theorem due?_tick (w : Watch) (now : Nat) (t : Task) :
    ({ w with now } : Watch).due? t = w.due? t := by
  cases t <;> rfl

theorem mem_clocked_advance (r : Rehearsal) (now : Nat) (t : Task) :
    t ∈ (r.advance now).clocked ↔
      t ∈ r.clocked ∧ ({ r.watch with now } : Watch).isAble t = false := by
  simp [advance, List.partition_eq_filter_filter]

theorem current_advance (r : Rehearsal) (now : Nat) :
    (r.advance now).current =
      if .leader ∈ r.clocked ∧ ({ r.watch with now } : Watch).isAble .leader then some .leader
      else none := by
  simp [advance, List.partition_eq_filter_filter]

/-- The clock moves on to the next moment for which somebody waits. -/
theorem of_advanced {now : Nat} (clocked : r.Clocked) (busy : r.watch.leader ≠ .idle)
    (current : r.current = none) (stuck : r.watch.isAble .leader = false)
    (next : r.nextDue? = some now) : Goes r (r.advance now) ∧ (r.advance now).Clocked := by
  obtain ⟨awaited, least⟩ := List.min?_eq_some_iff.mp next
  obtain ⟨t, known, waits⟩ := List.mem_filterMap.mp awaited
  have nobody (t : Task) : r.current ≠ some t := by rw [current]; exact nofun
  have soonest {t : Task} (known : t ∈ r.clocked) {due : Nat} (waits : r.watch.due? t = some due) :
      now ≤ due := least due (List.mem_filterMap.mpr ⟨t, known, waits⟩)
  have later : r.watch.now ≤ now := clocked.dues t known (nobody t) now waits
  have leader : (r.watch.due? .leader).all (now ≤ ·) = true := by
    cases waits : r.watch.due? .leader with
    | none => rfl
    | some due => exact decide_eq_true (soonest (clocked.leader (nobody _) due waits) waits)
  have still : r.watch.moveLeader.isNone = true := by
    rw [isAble_eq, Option.isSome_eq_false_iff] at stuck
    exact stuck
  refine ⟨.of_act? (d := .tick now) [] rfl ?_ rfl, ?_, ?_, ?_⟩
  · simp [act?, later, leader, still]
    rfl
  · intro other due waits
    change ({ r.watch with now } : Watch).due? .leader = some due at waits
    rw [due?_tick] at waits
    have known := clocked.leader (nobody _) due waits
    refine (mem_clocked_advance r now .leader).mpr ⟨known, ?_⟩
    rw [current_advance] at other
    split at other
    · exact absurd rfl other
    · rename_i unable
      simpa [known] using unable
  · intro t' mem _ due waits
    change ({ r.watch with now } : Watch).due? t' = some due at waits
    rw [due?_tick] at waits
    exact soonest ((mem_clocked_advance r now t').mp mem).1 waits
  · exact fun idle => absurd idle busy

/-- Each step of a rehearsal is done in a run. -/
theorem run_of_step (clocked : r.Clocked) (next : r.step = some r') : Goes r r' ∧ r'.Clocked := by
  unfold step at next
  split at next
  · cases next
  · rename_i busy
    split at next
    · rename_i t current
      split at next
      · rename_i watch acts done
        cases next
        exact of_moved clocked busy current done rfl
      · rename_i stuck
        cases next
        exact ⟨.of_same rfl rfl, clocked.suspend current stuck⟩
    · rename_i current
      split at next
      · cases next
        exact ⟨.of_same rfl rfl, clocked.resume _ busy current⟩
      · split at next
        · cases next
          exact ⟨.of_same rfl rfl, clocked.resume r.queue busy current⟩
        · rename_i stuck
          obtain ⟨now, due, rfl⟩ := Option.map_eq_some_iff.mp next
          exact of_advanced clocked busy current (Bool.eq_false_iff.mpr stuck) due

/-- A rehearsal is a run, however many steps it makes. -/
theorem goes_run (steps : Nat) (clocked : r.Clocked) :
    Goes r (run steps r) ∧ (run steps r).Clocked := by
  induction steps generalizing r with
  | zero => exact ⟨.of_same rfl rfl, clocked⟩
  | succ steps ih =>
      rw [run]
      split
      · exact ⟨.of_same rfl rfl, clocked⟩
      · rename_i next step
        obtain ⟨first, clocked⟩ := run_of_step clocked step
        obtain ⟨more, clocked⟩ := ih clocked
        exact ⟨first.trans more, clocked⟩

/-! ### What the leader is set to -/

/-- Nobody is going on, and the leader is idle. -/
structure Ready (r : Rehearsal) : Prop extends Clocked r where
  current : r.current = none
  idle : r.watch.leader = .idle

/-- A rehearsal is ready if its leader has nothing to do yet. -/
theorem ready_ofWatch {w : Watch} (idle : w.leader = .idle) : (ofWatch w).Ready where
  leader _ due waits := by
    change w.due? .leader = some due at waits
    rw [due?, idle] at waits
    cases waits
  dues _ mem := nomatch mem
  rests _ _ same := nomatch same
  current := rfl
  idle := idle

def called (r : Rehearsal) (goal : Goal) : Rehearsal :=
  ({ r with
      watch := (r.watch.engage goal).1
      log :=
        ((r.watch.engage goal).2.map fun act => ((r.watch.engage goal).1.now, act)).reverse ++ r.log
      current := some .leader } : Rehearsal).joinQueue

/-- All that the leader can be set to in a rehearsal. -/
theorem lead_eq (r : Rehearsal) (goal : Goal) :
    (match goal with
      | .refresh => r.refresh
      | .round => r.round
      | .run => r.runToEnd
      | .terminate => r.terminate
      | .close => r.close) = { run patience (r.called goal) with current := none } := by
  cases goal with
  | refresh | round | run | terminate | close => rfl

theorem Ready.called (ready : r.Ready) (goal : Goal) : (r.called goal).Clocked := by
  have leaves := leaves_engage r.watch goal
  refine ⟨fun other => absurd rfl other, ?_, fun _ t same => (Option.some.inj same).symm⟩
  intro t mem other due waits
  have other : t ≠ .leader := by
    rintro rfl
    exact other rfl
  change (r.watch.engage goal).1.now ≤ due
  rw [leaves.now]
  exact ready.dues t mem (by rw [ready.current]; exact nofun) due (leaves.due? other waits)

def callOf (w : Watch) (goal : Goal) : Moment :=
  ⟨w, .call goal, (w.engage goal).2, (w.engage goal).1⟩

theorem goes_called (ready : r.Ready) (goal : Goal) {past : List Moment} {w : Watch}
    (run : Watch.Run (r.called goal).watch past w) :
    Watch.Run r.watch (callOf r.watch goal :: past) w := by
  have called : r.watch.act? (.call goal) =
    some ((r.watch.engage goal).1, (r.watch.engage goal).2) := by
    simp only [act?, ready.idle, if_true]
  exact .step called run

/-- What the leader is set to is done in a run that begins with that; and when the leader is idle
again, the rehearsal is ready for more. -/
theorem run_of_lead (ready : r.Ready) (goal : Goal)
    (done : r' = { run patience (r.called goal) with current := none }) :
    (∃ past, Watch.Run r.watch (callOf r.watch goal :: past) r'.watch ∧
      (∀ m ∈ past, m.deed.goesOn = true) ∧
      r'.history = r.history ++ logOf (callOf r.watch goal :: past)) ∧
    (r'.watch.leader = .idle → r'.Ready) := by
  subst done
  obtain ⟨⟨past, done, goes, log⟩, clocked⟩ := goes_run patience (ready.called goal)
  refine ⟨⟨past, goes_called ready goal done, goes, ?_⟩, fun idle => ?_⟩
  · change (run patience (r.called goal)).history = _
    rw [log]
    simp [history, called, joinQueue, logOf, callOf]
  · change (run patience (r.called goal)).watch.leader = .idle at idle
    refine ⟨⟨?_, ?_, fun _ _ same => nomatch same⟩, rfl, idle⟩
    · intro _ due waits
      change (run patience (r.called goal)).watch.due? .leader = some due at waits
      rw [due?, idle] at waits
      cases waits
    · intro t mem _ due waits
      by_cases same : (run patience (r.called goal)).current = some t
      · cases clocked.rests idle t same
        change (run patience (r.called goal)).watch.due? .leader = some due at waits
        rw [due?, idle] at waits
        cases waits
      · exact clocked.dues t mem same due waits

end Rehearsal

end Vigil
