import Mathlib.Data.List.Nodup
import Mathlib.Data.List.Perm.Subperm
import Vigil.Proofs.Pool.Shift

/-!
What the chronicle of a pool at work says of its workers. An execution in progress is that of one
worker, and how far the worker has come with it can be read off from its runs: all of them but the
last found a change that had to be confirmed.

Main definition: `Shift.Chronicle.Follows`, the chronicle agrees with the pool. Main statement:
`Shift.Chronicle.Follows.note`, whatever is done, it does so afterwards.
-/

namespace Vigil.Shift

open Watch (Act Labor Recording Lead)

/-! ### How far an execution has come -/

namespace Course

/-- The verdicts of an execution so far: each of them told of a change, which is still to be
confirmed. -/
structure Tried (x : Course) (e : Execution) (retries : Nat) (before : List Verdict) : Prop where
  job : x.job = e.job
  began : ∃ n, x.began = some (n, e.previous)
  changes : ∀ v ∈ before, e.previous.isTransition v.status = true
  count : before.length + e.left = retries

/-- How far a worker has come with an execution, by what it is doing. -/
inductive At (x : Course) (retries : Nat) : Worker → Prop where
  | holding (began : x.began = none) (runs : x.runs = []) : x.At retries (.holding x.job)
  | checking {e : Execution} {due : Nat} {before : List Verdict} {v : Verdict}
      (tried : x.Tried e retries before) (runs : x.runs = before ++ [v]) :
      x.At retries (.checking e due v)
  | pausing {e : Execution} {due : Nat} (tried : x.Tried e retries x.runs) :
      x.At retries (.pausing e due)

theorem At.job? {x : Course} {retries : Nat} {s : Worker} (here : x.At retries s) :
    s.job? = some x.job := by
  cases here with
  | holding => rfl
  | checking tried | pausing tried => exact congrArg some tried.job.symm

/-- The first run begins. -/
theorem At.begins {x : Course} {retries : Nat} {job : Monitored}
    (here : x.At retries (.holding job))
    (recorded : Nat) (previous : Status) (due : Nat) (v : Verdict) :
    (x.run recorded (.checking ⟨job, previous, retries⟩ due v)).At retries
      (.checking ⟨job, previous, retries⟩ due v) := by
  cases here with
  | holding began runs =>
      have tried : (x.run recorded (.checking ⟨x.job, previous, retries⟩ due v)).Tried
          ⟨x.job, previous, retries⟩ retries [] := by
        refine ⟨rfl, ⟨recorded, ?_⟩, fun u mem => (nomatch mem), Nat.zero_add _⟩
        rw [run, began]
        rfl
      refine .checking tried ?_
      rw [run, runs]

/-- A check is to be repeated. -/
theorem At.pauses {x : Course} {retries : Nat} {e : Execution} {due : Nat} {v : Verdict}
    (here : x.At retries (.checking e due v))
    (again : Confirmation.goesOn e.previous e.left v = true)
    (later : Nat) : x.At retries (.pausing { e with left := e.left - 1 } later) := by
  rw [Confirmation.goesOn, Bool.and_eq_true, decide_eq_true_eq] at again
  cases here with
  | @checking _ _ before _ tried runs =>
      refine .pausing ⟨tried.job, tried.began, fun u mem => ?_, ?_⟩
      · rw [runs] at mem
        rcases List.mem_append.mp mem with earlier | last
        · exact tried.changes u earlier
        · exact List.mem_singleton.mp last ▸ again.1
      · have count := tried.count
        rw [runs, List.length_append, List.length_singleton]
        dsimp only
        omega

/-- A repetition begins. -/
theorem At.repeats {x : Course} {retries : Nat} {e : Execution} {due : Nat}
    (here : x.At retries (.pausing e due)) (recorded later : Nat) (v : Verdict) :
    (x.run recorded (.checking e later v)).At retries (.checking e later v) := by
  cases here with
  | pausing tried =>
      obtain ⟨n, began⟩ := tried.began
      have tried : (x.run recorded (.checking e later v)).Tried e retries x.runs := by
        refine ⟨tried.job, ⟨n, ?_⟩, tried.changes, tried.count⟩
        rw [run, began]
        rfl
      exact .checking tried rfl

/-- An execution has come to its verdict: all runs but the last told of a change, and if the last
one did so as well, it was the last repetition. -/
structure Ended (x : Course) (retries n : Nat) (previous : Status) (before : List Verdict)
    (v : Verdict) :
    Prop where
  began : x.began = some (n, previous)
  runs : x.runs = before ++ [v]
  changes : ∀ u ∈ before, previous.isTransition u.status = true
  count : before.length ≤ retries
  confirmed : previous.isTransition v.status = true → before.length = retries

/-- An execution whose check is not repeated has come to its verdict. -/
theorem At.ended {x : Course} {retries : Nat} {e : Execution} {due : Nat} {v : Verdict}
    (here : x.At retries (.checking e due v))
    (done : Confirmation.goesOn e.previous e.left v = false) :
    ∃ n previous before, x.Ended retries n previous before v := by
  cases here with
  | @checking _ _ before _ tried runs =>
      obtain ⟨n, began⟩ := tried.began
      have count := tried.count
      refine ⟨n, e.previous, before, began, runs, tried.changes, by omega, fun change => ?_⟩
      have last : e.left = 0 := by simpa [Confirmation.goesOn, change] using done
      omega

theorem Ended.finding? {x : Course} {retries n : Nat} {previous : Status} {before : List Verdict}
    {v : Verdict} (ended : x.Ended retries n previous before v) : x.finding? = some ⟨x.job, v⟩ := by
  simp [Course.finding?, ended.runs]

end Course

/-! ### Chronicles that agree with the pool -/

/-- The chronicle agrees with the pool: the executions in progress are those that the workers are
at, each service that has been taken has one execution, and the verdicts of those that have ended
have been recorded or are on their way, in that order. -/
structure Chronicle.Follows (k : Chronicle) (w : Watch) : Prop where
  lined : w.pool.IsLined
  apart : (k.going.map Course.worker).Nodup
  here : ∀ x ∈ k.going, x.At w.pool.confirmation.retries (w.pool.worker x.worker)
  busy : ∀ i job, (w.pool.worker i).job? = some job → ∃ x ∈ k.going, x.worker = i
  ended : ∀ x ∈ k.concluded, ∃ n previous before v,
    x.Ended w.pool.confirmation.retries n previous before v
  findings : k.concluded.map Course.finding? = (k.recorded ++ w.pool.findings).map some
  takings : (k.courses.map Course.taking).Perm k.taken.zipIdx

namespace Chronicle

variable {k : Chronicle} {w w' : Watch} {d : Deed} {acts : List Act} {i : Nat}

/-- Before anything has happened, no worker is at anything. -/
theorem Follows.ofSize {size : Nat} {c : Confirmation} (pool : w.pool = .ofSize size c) :
    blank.Follows w := by
  have idle (i : Nat) (job : Monitored) : (w.pool.worker i).job? ≠ some job := by
    simp only [pool, Pool.worker, Pool.ofSize, List.getElem?_replicate]
    split
    · rintro ⟨⟩
    · rintro ⟨⟩
  refine ⟨?_, List.nodup_nil, List.forall_mem_nil _, fun i job works => absurd works (idle i job),
    List.forall_mem_nil _, ?_, .refl _⟩
  · rw [pool]
    exact ⟨List.nodup_nil, List.forall_mem_nil _⟩
  · rw [pool]
    rfl

/-- A worker that is not at a service has no execution in progress. -/
theorem Follows.ne_of_idle (follows : k.Follows w) (idle : (w.pool.worker i).job? = none)
    {x : Course} (mem : x ∈ k.going) : x.worker ≠ i := by
  rintro rfl
  rw [(follows.here x mem).job?] at idle
  cases idle

/-- A worker has one execution in progress at most. -/
theorem Follows.eq_of_worker (follows : k.Follows w) {x y : Course} (hx : x ∈ k.going)
    (hy : y ∈ k.going) (same : x.worker = y.worker) : x = y :=
  List.inj_on_of_nodup_map follows.apart hx hy same

/-- A worker is at one execution at a time. -/
theorem Follows.filter_worker (follows : k.Follows w) {x : Course} (mem : x ∈ k.going) :
    k.going.filter (·.worker = x.worker) = [x] := by
  refine List.perm_singleton.mp ((List.perm_ext_iff_of_nodup (follows.apart.of_map.filter _)
    (List.nodup_singleton x)).mpr fun y => ?_)
  rw [List.mem_filter, List.mem_singleton, decide_eq_true_eq]
  constructor
  · rintro ⟨going, same⟩
    exact follows.eq_of_worker going mem same
  · rintro rfl
    exact ⟨mem, rfl⟩

/-- What the chronicle says still holds if the workers go on with their executions, or without
one. -/
theorem Follows.aside (follows : k.Follows w) (lined : w'.pool.IsLined)
    (confirmation : w'.pool.confirmation = w.pool.confirmation)
    (findings : w'.pool.findings = w.pool.findings)
    (workers : ∀ j, w'.pool.worker j = w.pool.worker j ∨
      (w.pool.worker j).job? = none ∧ (w'.pool.worker j).job? = none) : k.Follows w' where
  lined := lined
  apart := follows.apart
  here x mem := by
    rw [confirmation]
    rcases workers x.worker with same | ⟨idle, -⟩
    · rw [same]
      exact follows.here x mem
    · exact absurd rfl (follows.ne_of_idle idle mem)
  busy j job works := by
    rcases workers j with same | ⟨-, idle⟩
    · exact follows.busy j job (same ▸ works)
    · rw [idle] at works
      cases works
  ended := confirmation ▸ follows.ended
  findings := findings ▸ follows.findings
  takings := follows.takings

/-! ### What workers do -/

section Working

variable (follows : k.Follows w) (labor : Labor w i w' acts)
include follows labor

/-- Executions of other workers are as far as before. -/
theorem Follows.here_of_others {x : Course} (going : x ∈ k.going) (other : x.worker ≠ i) :
    x.At w'.pool.confirmation.retries (w'.pool.worker x.worker) := by
  rw [labor.frame.confirmation]
  rcases labor.others follows.lined other with same | ⟨idle, -⟩
  · rw [same]
    exact follows.here x going
  · exact absurd rfl (follows.ne_of_idle idle going)

/-- Other workers are at executions that are in progress. -/
theorem Follows.busy_of_others {j : Nat} {job : Monitored} (other : j ≠ i)
    (works : (w'.pool.worker j).job? = some job) : ∃ x ∈ k.going, x.worker = j := by
  rcases labor.others follows.lined other with same | ⟨-, idle⟩
  · exact follows.busy j job (same ▸ works)
  · rw [idle] at works
    cases works

/-- A worker goes on with its execution. -/
theorem Follows.goesOn (findings : w'.pool.findings = w.pool.findings)
    (busy : (w.pool.worker i).job?.isSome) (f : Course → Course)
    (same : ∀ x, (f x).taking = x.taking ∧ (f x).worker = x.worker)
    (others : ∀ x, x.worker ≠ i → f x = x)
    (here : ∀ x, x.worker = i → x.At w.pool.confirmation.retries (w.pool.worker i) →
      (f x).At w.pool.confirmation.retries (w'.pool.worker i)) :
    ({ k with going := k.going.map f } : Chronicle).Follows w' where
  lined := labor.isLined follows.lined
  apart := by
    have workers : (k.going.map f).map Course.worker = k.going.map Course.worker := by
      rw [List.map_map]
      exact List.map_congr_left fun x _ => (same x).2
    rw [workers]
    exact follows.apart
  here := by
    intro y mem
    obtain ⟨x, going, rfl⟩ := List.mem_map.mp mem
    by_cases mine : x.worker = i
    · subst mine
      rw [labor.frame.confirmation, (same x).2]
      exact here x rfl (follows.here x going)
    · rw [others x mine]
      exact follows.here_of_others labor going mine
  busy := by
    intro j job works
    have before : ∃ x ∈ k.going, x.worker = j := by
      by_cases mine : j = i
      · subst mine
        obtain ⟨job, before⟩ := Option.isSome_iff_exists.mp busy
        exact follows.busy j job before
      · exact follows.busy_of_others labor mine works
    obtain ⟨x, mem, worker⟩ := before
    exact ⟨f x, List.mem_map_of_mem mem, (same x).2.trans worker⟩
  ended := by
    rw [labor.frame.confirmation]
    exact follows.ended
  findings := findings ▸ follows.findings
  takings := by
    have takings : (k.going.map f).map Course.taking = k.going.map Course.taking := by
      rw [List.map_map]
      exact List.map_congr_left fun x _ => (same x).1
    have before := follows.takings
    rw [courses, List.map_append, List.map_append] at before ⊢
    exact takings ▸ before

/-- A worker that has nothing at hand takes a service. -/
theorem Follows.takes {job : Monitored} (findings : w'.pool.findings = w.pool.findings)
    (idle : (w.pool.worker i).job? = none) (holds : w'.pool.worker i = .holding job) :
    Follows { k with
      taken := k.taken ++ [job]
      going := k.going ++ [⟨k.taken.length, i, job, none, []⟩] } w' where
  lined := labor.isLined follows.lined
  apart := by
    rw [List.map_append, List.nodup_append]
    refine ⟨follows.apart, List.nodup_singleton _, ?_⟩
    intro j mem j' mine
    obtain ⟨x, going, rfl⟩ := List.mem_map.mp mem
    rw [List.map_singleton, List.mem_singleton] at mine
    exact mine ▸ follows.ne_of_idle idle going
  here := by
    intro x mem
    rcases List.mem_append.mp mem with going | new
    · exact follows.here_of_others labor going (follows.ne_of_idle idle going)
    · cases List.mem_singleton.mp new
      rw [holds]
      exact .holding rfl rfl
  busy := by
    intro j job' works
    by_cases mine : j = i
    · exact ⟨_, List.mem_append_right _ (List.mem_singleton_self _), mine.symm⟩
    · obtain ⟨x, mem, worker⟩ := follows.busy_of_others labor mine works
      exact ⟨x, List.mem_append_left _ mem, worker⟩
  ended := by
    rw [labor.frame.confirmation]
    exact follows.ended
  findings := findings ▸ follows.findings
  takings := by
    have last (x : Course) : (k.going ++ [x] ++ k.concluded ++ k.aborted).Perm
      (k.courses ++ [x]) := by
      rw [courses, List.append_assoc, List.append_assoc, List.append_assoc, List.append_assoc,
        ← List.append_assoc k.concluded]
      exact .append_left _ List.perm_append_comm
    refine ((last _).map Course.taking).trans ?_
    rw [List.map_append, List.zipIdx_append, Nat.zero_add]
    exact .append_right _ follows.takings

/-- A worker comes to a verdict. -/
theorem Follows.concludes {e : Execution} {due : Nat} {v : Verdict}
    (works : w.pool.worker i = .checking e due v)
    (done : Confirmation.goesOn e.previous e.left v = false)
    (findings : w'.pool.findings = w.pool.findings ++ [⟨e.job, v⟩])
    (idle : (w'.pool.worker i).job? = none) :
    Follows { k with
      going := k.going.filter (·.worker ≠ i)
      concluded := k.concluded ++ k.going.filter (·.worker = i) } w' := by
  have before : (w.pool.worker i).job? = some e.job := by
    rw [works]
    rfl
  obtain ⟨x, mem, rfl⟩ := follows.busy i e.job before
  have job : x.job = e.job := by
    rw [(follows.here x mem).job?] at before
    exact Option.some.inj before
  obtain ⟨n, previous, runs, ended⟩ := (works ▸ follows.here x mem).ended done
  rw [follows.filter_worker mem]
  constructor
  case lined => exact labor.isLined follows.lined
  case apart => exact follows.apart.sublist (List.filter_sublist.map _)
  case here =>
    intro y mem
    obtain ⟨going, other⟩ := List.mem_filter.mp mem
    exact follows.here_of_others labor going (of_decide_eq_true other)
  case busy =>
    intro j job works
    by_cases mine : j = x.worker
    · rw [mine, idle] at works
      cases works
    · obtain ⟨y, going, rfl⟩ := follows.busy_of_others labor mine works
      exact ⟨y, List.mem_filter.mpr ⟨going, decide_eq_true mine⟩, rfl⟩
  case ended =>
    intro y mem
    rw [labor.frame.confirmation]
    rcases List.mem_append.mp mem with earlier | last
    · exact follows.ended y earlier
    · cases List.mem_singleton.mp last
      exact ⟨n, previous, runs, v, ended⟩
  case findings =>
    rw [List.map_append, follows.findings, findings, List.map_singleton, ended.finding?, job]
    simp
  case takings =>
    refine .trans (.map _ (.append_right _ ?_)) follows.takings
    have parts : (k.going.filter (·.worker ≠ x.worker) ++ [x]).Perm k.going := by
      have both := List.filter_append_perm (·.worker = x.worker) k.going
      rw [← follows.filter_worker mem]
      simpa only [decide_not] using List.perm_append_comm.trans both
    refine (List.Perm.append_left _ List.perm_append_comm).trans ?_
    rw [← List.append_assoc]
    exact .append_right _ parts

end Working

/-! ### What the leader and the recorder do -/

/-- All that is in progress is dropped. -/
theorem Follows.abort (follows : k.Follows w) (goal : Watch.Goal) :
    k.abort.Follows { w with pool := w.pool.abort, leader := .aborting goal } where
  lined := follows.lined.abort
  apart := List.nodup_nil
  here _ mem := nomatch mem
  busy i job works := by
    rw [Pool.worker_abort] at works
    split at works
    · rename_i isOver
      rw [Worker.job?_of_isOver isOver] at works
      cases works
    · cases works
  ended := follows.ended
  findings := follows.findings
  takings := by
    refine .trans (.map _ ?_) follows.takings
    rw [courses, courses, Chronicle.abort, List.nil_append, ← List.append_assoc,
      List.append_assoc k.going]
    exact List.perm_append_comm

/-- The first verdict that is on its way is recorded. -/
theorem Follows.records (follows : k.Follows w) {f : Finding} {rest : List Finding}
    (first : w.pool.findings = f :: rest) (roster : Roster) (writer : Writer) :
    Follows { k with recorded := k.recorded ++ [f] }
      { w with roster, pool.findings := rest, writer } where
  lined := ⟨follows.lined.nodup, follows.lined.passive⟩
  apart := follows.apart
  here := follows.here
  busy := follows.busy
  ended := follows.ended
  findings := by rw [follows.findings, first, List.append_cons]
  takings := follows.takings

/-! ### Whole runs -/

/-- The step lemma of the chronicle: a worker takes a service, runs its check once more, waits, or
hands in the verdict, and in each case the chronicle says so. -/
theorem Follows.work (follows : k.Follows w) (labor : Labor w i w' acts) :
    (k.note ⟨w, .watch (.move (.worker i)), acts, w'⟩).Follows w' := by
  have lined := follows.lined
  have frame := labor.frame
  have inside := labor.inside
  have idles (before : (w.pool.worker i).job? = none) (after : (w'.pool.worker i).job? = none)
      (findings : w'.pool.findings = w.pool.findings) : k.Follows w' := by
    refine follows.aside (labor.isLined lined) frame.confirmation findings fun j => ?_
    by_cases mine : j = i
    · subst mine
      exact .inr ⟨before, after⟩
    · exact labor.others lined mine
  have runs {e : Execution} {acts : List Act} (labor : Labor w i (w.check i e).1 acts)
      (busy : (w.pool.worker i).job?.isSome)
      (here : ∀ (x : Course) (due : Nat) (v : Verdict),
        x.At w.pool.confirmation.retries (w.pool.worker i) →
          (x.run k.recorded.length (.checking e due v)).At w.pool.confirmation.retries
            (.checking e due v)) :
      Follows { k with going := k.going.map fun x =>
        if x.worker = i then x.run k.recorded.length ((w.check i e).1.pool.worker i) else x }
        (w.check i e).1 := by
    obtain ⟨due, v, -, checking⟩ := w.worker_check inside e
    refine follows.goesOn labor rfl busy _ (fun x => ?_)
      (fun x other => if_neg other) fun x mine works => ?_
    · split
      · exact ⟨x.taking_run _ _, x.worker_run _ _⟩
      · exact ⟨rfl, rfl⟩
    · rw [if_pos mine, checking]
      exact here x due v works
  have still (findings : w'.pool.findings = w.pool.findings)
      (busy : (w.pool.worker i).job?.isSome)
      (here : ∀ x : Course, x.At w.pool.confirmation.retries (w.pool.worker i) →
        x.At w.pool.confirmation.retries (w'.pool.worker i)) : k.Follows w' := by
    have same := follows.goesOn labor findings busy id (fun _ => ⟨rfl, rfl⟩) (fun _ _ => rfl)
      fun x _ => here x
    rwa [List.map_id] at same
  cases labor with
  | seeks here =>
      refine idles (by rw [here]; rfl) ?_ (w.pool.findings_seek i)
      rw [Pool.job?_seek here, here]
      rfl
  | leaves here =>
      exact idles (by rw [here]; rfl) (lined.job?_leave here) (Pool.findings_yieldTurn _)
  | @takes job rest here going first =>
      exact follows.takes (.takes here going first) (Pool.findings_yieldTurn _) (by rw [here]; rfl)
        (lined.worker_take here job rest)
  | begins here =>
      exact runs (.begins here) (by rw [here]; rfl) fun x due v works =>
        (here ▸ works).begins _ _ _ _
  | pauses here time again =>
      refine still rfl (by rw [here]; rfl) fun x works => ?_
      rw [Pool.worker_set _ inside, if_pos rfl]
      exact (here ▸ works).pauses again _
  | @concludes e due v here time done =>
      refine follows.concludes (.concludes here time done) here done rfl ?_
      have set := Pool.worker_set w.pool inside .seeking i
      rw [if_pos rfl] at set
      exact congrArg Worker.job? set
  | repeats here time =>
      exact runs (.repeats here time) (by rw [here]; rfl) fun x due v works =>
        (here ▸ works).repeats _ _ _
  | drops here =>
      refine idles (by rw [here]; rfl) ?_ rfl
      rw [Pool.worker_set _ inside, if_pos rfl]
      rfl

/-- Whatever is done, the chronicle agrees with the pool afterwards. -/
theorem Follows.note (follows : k.Follows w) (done : act? w d = some (w', acts)) :
    (k.note ⟨w, d, acts, w'⟩).Follows w' := by
  cases effect_of_act? done with
  | works labor => exact follows.work labor
  | records recording =>
      cases recording with
      | records running first => exact follows.records first _ _
      | finishes =>
          rw [Chronicle.note, Moment.recorded, List.filterMap_nil, List.append_nil]
          exact follows.aside ⟨follows.lined.nodup, follows.lined.passive⟩ rfl rfl fun _ => .inl rfl
  | aborts _ note =>
      rw [note]
      exact follows.abort _
  | nothing quiet =>
      have hands := quiet.hands
      rw [quiet.note]
      refine follows.aside ?_ hands.confirmation hands.findings fun j => .inl ?_
      · refine ⟨hands.line ▸ follows.lined.nodup, fun j mem => ?_⟩
        rw [Pool.worker, hands.workers]
        exact follows.lined.passive j (hands.line ▸ mem)
      · rw [Pool.worker, hands.workers, Pool.worker]

end Chronicle

end Vigil.Shift
