import Vigil.Watch.Basic

/-!
The steps of workers and of the recorder one by one, with all that has to hold for them, and what
they leave as it is in the pool.

Main definitions: `Watch.Labor` and `Watch.Recording`. Main statements: `Watch.labor_of_moveWorker`
and `Watch.recording_of_moveRecorder`, nothing else is done; `Watch.Labor.isLined`, only workers
that have nothing to do stand in line.
-/

namespace Vigil

/-- The service that a worker is at. -/
def Worker.job? : Worker → Option Monitored
  | .holding job => some job
  | .checking x _ _ | .pausing x _ => some x.job
  | _ => none

/-- Whether a worker has nothing to do, and will not look at the queue by itself. -/
def Worker.isPassive : Worker → Bool
  | .inLine | .doomed | .finished | .aborted => true
  | _ => false

theorem Worker.job?_of_isPassive {s : Worker} (passive : s.isPassive = true) : s.job? = none := by
  cases s with
  | inLine | doomed | finished | aborted => rfl
  | seeking | listening | holding | checking | pausing => cases passive

theorem Worker.job?_of_isOver {s : Worker} (isOver : s.isOver = true) : s.job? = none := by
  cases s with
  | finished | aborted => rfl
  | seeking | inLine | listening | holding | checking | pausing | doomed => cases isOver

namespace Pool

/-! ### What a worker is doing -/

theorem worker_of_le {p : Pool} {i : Nat} (beyond : p.workers.length ≤ i) :
    p.worker i = .finished := by
  rw [worker, List.getElem?_eq_none beyond]
  rfl

/-- Only workers that there are do something. -/
theorem lt_of_worker {p : Pool} {i : Nat} (here : p.worker i ≠ .finished) : i < p.workers.length :=
  Nat.lt_of_not_le fun beyond => here (worker_of_le beyond)

theorem worker_set (p : Pool) {i : Nat} (inside : i < p.workers.length) (s : Worker) (j : Nat) :
    (p.set i s).worker j = if j = i then s else p.worker j := by
  by_cases same : j = i
  · subst same
    simp [worker, set, inside]
  · simp [worker, set, same, Ne.symm same]

theorem worker_abort (p : Pool) (j : Nat) :
    p.abort.worker j = if (p.worker j).isOver then p.worker j else .doomed := by
  simp only [worker, abort, List.getElem?_map]
  by_cases inside : j < p.workers.length
  · simp [inside]
  · simp [inside]
    rfl

/-- Workers that the pool does not have count as having come to their end. -/
theorem isOver_iff {p : Pool} : p.isOver = true ↔ ∀ i, (p.worker i).isOver = true := by
  rw [isOver, List.all_eq_true]
  constructor
  · intro all i
    rw [worker]
    cases here : p.workers[i]? with
    | none => rfl
    | some s => exact all s (List.mem_of_getElem? here)
  · intro all s mem
    obtain ⟨i, inside, rfl⟩ := List.mem_iff_getElem.mp mem
    have isOver := all i
    rwa [worker, List.getElem?_eq_getElem inside] at isOver

/-- A turn at the queue brings no verdict. -/
theorem findings_seek (p : Pool) (i : Nat) : (p.seek i).findings = p.findings := by
  unfold seek
  split
  · rfl
  · rfl

theorem findings_yieldTurn (p : Pool) : p.yieldTurn.findings = p.findings := by
  unfold yieldTurn
  split
  · rfl
  · rfl

/-- The line consists of workers that have nothing to do, each of them once. -/
structure IsLined (p : Pool) : Prop where
  nodup : p.line.Nodup
  passive : ∀ k ∈ p.line, (p.worker k).isPassive = true

theorem IsLined.not_mem {p : Pool} (lined : p.IsLined) {i : Nat}
    (busy : (p.worker i).isPassive = false) : i ∉ p.line := by
  intro mem
  rw [lined.passive i mem] at busy
  cases busy

/-- The first worker in line has its turn, and nobody else does anything. -/
theorem worker_yieldTurn (p : Pool) (j : Nat) :
    p.yieldTurn.worker j = p.worker j ∨ j ∈ p.line ∧ p.yieldTurn.worker j = .listening := by
  unfold yieldTurn
  split
  · exact .inl rfl
  · rename_i i rest line
    rw [line]
    by_cases inside : i < p.workers.length
    · have changed := worker_set p inside .listening j
      by_cases same : j = i
      · subst same
        rw [if_pos rfl] at changed
        exact .inr ⟨List.mem_cons_self, changed⟩
      · rw [if_neg same] at changed
        exact .inl changed
    · refine .inl ?_
      simp only [worker, set, List.set_eq_of_length_le (Nat.le_of_not_lt inside)]

/-- A turn is given to a worker that has nothing to do. -/
theorem IsLined.job?_yieldTurn {p : Pool} (lined : p.IsLined) (j : Nat) :
    (p.yieldTurn.worker j).job? = (p.worker j).job? := by
  rcases worker_yieldTurn p j with same | ⟨mem, listening⟩
  · rw [same]
  · rw [listening, Worker.job?_of_isPassive (lined.passive j mem)]
    rfl

theorem IsLined.yieldTurn {p : Pool} (lined : p.IsLined) : p.yieldTurn.IsLined := by
  cases line : p.line with
  | nil => rwa [Pool.yieldTurn, line]
  | cons i rest =>
      obtain ⟨out, nodup⟩ := List.nodup_cons.mp (line ▸ lined.nodup)
      have shorter : p.yieldTurn.line = rest := by simp [Pool.yieldTurn, line]
      refine ⟨shorter ▸ nodup, fun k mem => ?_⟩
      rw [shorter] at mem
      have apart : k ≠ i := fun same => out (same ▸ mem)
      have same : p.yieldTurn.worker k = p.worker k := by
        simp [Pool.yieldTurn, line, worker, set, Ne.symm apart]
      rw [same]
      exact lined.passive k (line ▸ List.mem_cons_of_mem i mem)

/-- A worker that does not stand in line may go on to anything. -/
theorem IsLined.set {p : Pool} (lined : p.IsLined) {i : Nat} (out : i ∉ p.line) (s : Worker) :
    (p.set i s).IsLined := by
  refine ⟨lined.nodup, fun k mem => ?_⟩
  have apart : i ≠ k := fun same => out (same ▸ mem)
  have same : (p.set i s).worker k = p.worker k := by simp [worker, Pool.set, apart]
  rw [same]
  exact lined.passive k mem

/-- A worker that has nothing to do may go on to something like that. -/
theorem IsLined.set_passive {p : Pool} (lined : p.IsLined) {i : Nat} (inside : i < p.workers.length)
    {s : Worker} (passive : s.isPassive = true) : (p.set i s).IsLined := by
  refine ⟨lined.nodup, fun k mem => ?_⟩
  rw [worker_set p inside]
  split
  · exact passive
  · exact lined.passive k mem

/-- A worker stands in line only if it has nothing to do, and nobody stands there twice. -/
theorem IsLined.seek {p : Pool} (lined : p.IsLined) {i : Nat} (seeking : p.worker i = .seeking) :
    (p.seek i).IsLined := by
  have inside : i < p.workers.length := lt_of_worker (by rw [seeking]; nofun)
  have out : i ∉ p.line := lined.not_mem (by rw [seeking]; rfl)
  unfold Pool.seek
  split
  · refine ⟨?_, fun k mem => ?_⟩
    · rw [List.nodup_append]
      refine ⟨lined.nodup, by simp, fun k mem j same => ?_⟩
      rw [List.mem_singleton.mp same]
      rintro rfl
      exact out mem
    · change ((p.set i .inLine).worker k).isPassive = true
      rw [worker_set p inside]
      split
      · rfl
      · rename_i apart
        rcases List.mem_append.mp mem with mem | mem
        · exact lined.passive k mem
        · exact absurd (List.mem_singleton.mp mem) apart
  · exact lined.set out .listening

/-- Nobody takes a service by standing in line. -/
theorem job?_seek {p : Pool} {i : Nat} (seeking : p.worker i = .seeking) (j : Nat) :
    ((p.seek i).worker j).job? = (p.worker j).job? := by
  have inside : i < p.workers.length := lt_of_worker (by rw [seeking]; nofun)
  have none (s : Worker) (idle : s.job? = none) :
      ((p.set i s).worker j).job? = (p.worker j).job? := by
    rw [worker_set p inside]
    split
    · rename_i same
      rw [same, seeking, idle]
      rfl
    · rfl
  unfold seek
  split
  · exact none .inLine rfl
  · exact none .listening rfl

/-- A worker that leaves the queue for good has nothing at hand. -/
theorem IsLined.job?_leave {p : Pool} (lined : p.IsLined) {i : Nat}
    (here : p.worker i = .listening) :
    ((p.set i .finished).yieldTurn.worker i).job? = none := by
  have inside : i < p.workers.length := lt_of_worker (by rw [here]; nofun)
  have left := lined.set (lined.not_mem (by rw [here]; rfl)) .finished
  rw [left.job?_yieldTurn, worker_set _ inside, if_pos rfl]
  rfl

/-- A worker that takes a service holds it. -/
theorem IsLined.worker_take {p : Pool} (lined : p.IsLined) {i : Nat}
    (here : p.worker i = .listening) (job : Monitored) (rest : List Monitored) :
    ({ p.set i (.holding job) with jobs := rest } : Pool).yieldTurn.worker i = .holding job := by
  have inside : i < p.workers.length := lt_of_worker (by rw [here]; nofun)
  have set := worker_set p inside (.holding job) i
  rw [if_pos rfl] at set
  rcases worker_yieldTurn { p.set i (.holding job) with jobs := rest } i with same | ⟨mem, -⟩
  · exact same.trans set
  · exact absurd mem (lined.not_mem (by rw [here]; rfl))

theorem IsLined.abort {p : Pool} (lined : p.IsLined) : p.abort.IsLined := by
  refine ⟨lined.nodup, fun k mem => ?_⟩
  rw [worker_abort]
  split
  · exact lined.passive k mem
  · rfl

end Pool

namespace Watch

/-! ### Steps of workers -/

inductive Labor (w : Watch) (i : Nat) : Watch → List Act → Prop where
  | seeks (here : w.pool.worker i = .seeking) : Labor w i { w with pool := w.pool.seek i } []
  /-- The pool has been stopped. -/
  | leaves (here : w.pool.worker i = .listening) (stopped : w.pool.stopped = true) :
      Labor w i { w with pool := (w.pool.set i .finished).yieldTurn } []
  | takes {job : Monitored} {rest : List Monitored} (here : w.pool.worker i = .listening)
      (going : w.pool.stopped = false) (first : w.pool.jobs = job :: rest) :
      Labor w i
        { w with pool := ({ w.pool.set i (.holding job) with jobs := rest } : Pool).yieldTurn }
        [.took job]
  /-- The first run of the check begins. -/
  | begins {job : Monitored} (here : w.pool.worker i = .holding job) :
      Labor w i (w.check i ⟨job, (w.roster.live job).status, w.pool.confirmation.retries⟩).1
        [.checked job.id]
  | pauses {x : Execution} {due : Nat} {v : Verdict} (here : w.pool.worker i = .checking x due v)
      (time : due ≤ w.now) (again : Confirmation.goesOn x.previous x.left v = true) :
      Labor w i { w with pool := w.pool.set i (.pausing { x with left := x.left - 1 }
        (w.now + w.pool.confirmation.pause.millisUp)) } []
  | concludes {x : Execution} {due : Nat} {v : Verdict} (here : w.pool.worker i = .checking x due v)
      (time : due ≤ w.now) (done : Confirmation.goesOn x.previous x.left v = false) :
      Labor w i { w with pool := w.pool.handIn i x.job v } [.concluded x.job v]
  /-- Another run of the check begins. -/
  | repeats {x : Execution} {due : Nat} (here : w.pool.worker i = .pausing x due)
      (time : due ≤ w.now) : Labor w i (w.check i x).1 [.checked x.job.id]
  | drops (here : w.pool.worker i = .doomed) :
      Labor w i { w with pool := w.pool.set i .aborted } []

/-- Workers take no other steps. -/
theorem labor_of_moveWorker {w w' : Watch} {i : Nat} {acts : List Act}
    (done : w.moveWorker i = some (w', acts)) : Labor w i w' acts := by
  unfold moveWorker at done
  split at done
  · rename_i here
    cases done
    exact .seeks here
  · cases done
  · cases done
  · cases done
  · rename_i here
    obtain ⟨pool, listened, same⟩ := Option.map_eq_some_iff.mp done
    cases same
    unfold Pool.listen at listened
    split at listened
    · rename_i stopped
      cases listened
      rw [if_pos stopped]
      exact .leaves here stopped
    · rename_i going
      split at listened
      · cases listened
      · rename_i job rest first
        cases listened
        rw [if_neg going, first]
        exact .takes here (Bool.eq_false_iff.mpr going) first
  · rename_i here
    cases done
    exact .begins here
  · rename_i here
    split at done
    · cases done
    · rename_i late
      split at done
      · rename_i again
        cases done
        exact .pauses here (Nat.le_of_not_lt late) again
      · rename_i isOver
        cases done
        exact .concludes here (Nat.le_of_not_lt late) (Bool.eq_false_iff.mpr isOver)
  · rename_i here
    split at done
    · cases done
    · rename_i late
      cases done
      exact .repeats here (Nat.le_of_not_lt late)
  · rename_i here
    cases done
    exact .drops here

/-- What workers leave as it is. -/
structure Labor.Frame (w w' : Watch) : Prop where
  policy : w'.policy = w.policy
  now : w'.now = w.now
  roster : w'.roster = w.roster
  writer : w'.writer = w.writer
  leader : w'.leader = w.leader
  lifecycle : w'.lifecycle = w.lifecycle
  stopped : w'.pool.stopped = w.pool.stopped
  recorder : w'.pool.recorder = w.pool.recorder
  confirmation : w'.pool.confirmation = w.pool.confirmation
  size : w'.pool.workers.length = w.pool.workers.length

/-- A step that changes only who does what in the pool, and its two queues. -/
theorem Labor.Frame.of_pool {w : Watch} {p : Pool}
    (confirmation : p.confirmation = w.pool.confirmation)
    (stopped : p.stopped = w.pool.stopped) (recorder : p.recorder = w.pool.recorder)
    (size : p.workers.length = w.pool.workers.length) : Frame w { w with pool := p } :=
  ⟨rfl, rfl, rfl, rfl, rfl, rfl, stopped, recorder, confirmation, size⟩

variable {w w' : Watch} {i : Nat} {acts : List Act}

/-- The work of a worker is its own: other workers, the leader and the writer do not change by it.
-/
theorem Labor.frame (labor : Labor w i w' acts) : Frame w w' := by
  have yields (p : Pool) : p.yieldTurn.confirmation = p.confirmation ∧
    p.yieldTurn.stopped = p.stopped ∧
      p.yieldTurn.recorder = p.recorder ∧ p.yieldTurn.workers.length = p.workers.length := by
    unfold Pool.yieldTurn
    split
    · exact ⟨rfl, rfl, rfl, rfl⟩
    · exact ⟨rfl, rfl, rfl, List.length_set⟩
  cases labor with
  | seeks =>
      unfold Pool.seek
      split
      · exact .of_pool rfl rfl rfl List.length_set
      · exact .of_pool rfl rfl rfl List.length_set
  | leaves =>
      obtain ⟨confirmation, stopped, recorder, size⟩ := yields (w.pool.set i .finished)
      exact .of_pool confirmation stopped recorder (size.trans List.length_set)
  | @takes job rest =>
      obtain ⟨confirmation, stopped, recorder, size⟩ :=
        yields { w.pool.set i (.holding job) with jobs := rest }
      exact .of_pool confirmation stopped recorder (size.trans List.length_set)
  | begins | repeats => exact ⟨rfl, rfl, rfl, rfl, rfl, rfl, rfl, rfl, rfl, List.length_set⟩
  | pauses | concludes | drops => exact .of_pool rfl rfl rfl List.length_set

/-- A worker that does something has not come to its end. -/
theorem Labor.not_isOver (labor : Labor w i w' acts) : (w.pool.worker i).isOver = false := by
  cases labor with
  | seeks here | leaves here | takes here | begins here | pauses here | concludes here
  | repeats here
  | drops here => rw [here]; rfl

theorem Labor.inside (labor : Labor w i w' acts) : i < w.pool.workers.length := by
  refine Pool.lt_of_worker fun finished => ?_
  have going := labor.not_isOver
  rw [finished] at going
  cases going

/-- A worker that runs a check is at it for a while. -/
theorem worker_check (w : Watch) (inside : i < w.pool.workers.length) (e : Execution) :
    ∃ due v, w.now ≤ due ∧ (w.check i e).1.pool.worker i = .checking e due v := by
  have set (due : Nat) (v : Verdict) : (w.pool.set i (.checking e due v)).worker i =
    .checking e due v := by
    rw [Pool.worker_set _ inside, if_pos rfl]
  exact ⟨_, _, Nat.le_add_right _ _, set _ _⟩

/-- The line stays in order whatever a worker does. -/
theorem Labor.isLined (labor : Labor w i w' acts) (lined : w.pool.IsLined) : w'.pool.IsLined := by
  have inside := labor.inside
  cases labor with
  | seeks here => exact lined.seek here
  | leaves here =>
      exact (lined.set (lined.not_mem (by rw [here]; rfl)) .finished).yieldTurn
  | @takes job rest here =>
      have set := lined.set (lined.not_mem (by rw [here]; rfl)) (.holding job)
      exact Pool.IsLined.yieldTurn ⟨set.nodup, set.passive⟩
  | begins here | pauses here | repeats here =>
      exact lined.set (lined.not_mem (by rw [here]; rfl)) _
  | concludes here =>
      have set := lined.set (lined.not_mem (by rw [here]; rfl)) .seeking
      exact ⟨set.nodup, set.passive⟩
  | drops => exact lined.set_passive inside rfl

/-- What a worker does leaves those alone that are at a service. -/
theorem Labor.others (labor : Labor w i w' acts) (lined : w.pool.IsLined) {j : Nat}
    (other : j ≠ i) :
    w'.pool.worker j = w.pool.worker j ∨
      (w.pool.worker j).job? = none ∧ (w'.pool.worker j).job? = none := by
  have inside := labor.inside
  have set (s : Worker) : (w.pool.set i s).worker j = w.pool.worker j := by
    rw [Pool.worker_set _ inside, if_neg other]
  -- whoever stands in line may have his turn
  have yields {p : Pool} (s : Worker) (line : p.line = w.pool.line)
      (workers : p.workers = (w.pool.set i s).workers) :
      p.yieldTurn.worker j = w.pool.worker j ∨
        (w.pool.worker j).job? = none ∧ (p.yieldTurn.worker j).job? = none := by
    have before : p.worker j = w.pool.worker j := by rw [Pool.worker, workers, ← Pool.worker, set]
    rcases Pool.worker_yieldTurn p j with same | ⟨mem, listening⟩
    · exact .inl (same.trans before)
    · rw [line] at mem
      rw [listening]
      exact .inr ⟨Worker.job?_of_isPassive (lined.passive j mem), rfl⟩
  cases labor with
  | seeks =>
      unfold Pool.seek
      split
      · exact .inl (set .inLine)
      · exact .inl (set .listening)
  | leaves => exact yields .finished rfl rfl
  | @takes job => exact yields (.holding job) rfl rfl
  | begins | pauses | concludes | repeats | drops => exact .inl (set _)

/-! ### Steps of the recorder -/

inductive Recording (w : Watch) : Watch → List Act → Prop where
  | records {job : Monitored} {v : Verdict} {rest : List Finding}
      (running : w.pool.recorder = .running)
      (first : w.pool.findings = ⟨job, v⟩ :: rest) :
      Recording w
        { w with
          roster := (w.roster.record job v w.instant).1
          pool.findings := rest
          writer := (w.roster.record job v w.instant).2.foldl .accept w.writer }
        [.recorded job v]
  | finishes (running : w.pool.recorder = .running) (none : w.pool.findings = [])
      (isOver : w.pool.isOver = true) : Recording w (w.dismiss .finished) []

/-- The recorder takes no other steps. -/
theorem recording_of_moveRecorder (done : w.moveRecorder = some (w', acts)) :
    Recording w w' acts := by
  unfold moveRecorder at done
  split at done
  · cases done
  · rename_i running
    have running := Decidable.not_not.mp running
    split at done
    · rename_i first
      cases done
      exact .records running first
    · rename_i none
      split at done
      · rename_i isOver
        cases done
        exact .finishes running none isOver
      · cases done

end Watch

end Vigil
