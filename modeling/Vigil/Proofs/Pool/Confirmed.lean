import Vigil.Proofs.Pool.Grace
import Vigil.Proofs.Roster.Reports

/-!
Which changes have been confirmed when they are reported. Whether a check is repeated is decided by
the status that its service had when the check began; whether its verdict is reported, by the status
when the verdict is recorded. The two differ only if another check of the same service has ended in
between.

Main definitions: `Shift.Course.Confirmed`; `Shift.Chronicle.Steady`, what an execution still knows
of its service. Main statement: `Shift.confirmed_of_reported`.
-/

namespace Vigil

namespace Status

/-- All that is reported of a service of some status is the same status. -/
theorem eq_of_isTransition {s t u : Status} (ht : s.isTransition t = true)
    (hu : s.isTransition u = true) :
    t = u := by
  rw [eq_opposite_of_isTransition ht, eq_opposite_of_isTransition hu]

end Status

namespace Watch

/-- The services that the leader has still to send in a round. -/
def Leader.toSend : Leader → List Monitored
  | .pacing _ _ rest _ _ => rest
  | _ => []

end Watch

namespace Shift

open Watch (Act Labor Recording Lead)

variable {w w' : Watch} {d : Deed} {acts : List Act} {i : Nat} {k : Chronicle}

/-! ### Confirmed changes -/

/-- Each of the runs that there may be was made, and all of them tell the same status. -/
def Course.Confirmed (x : Course) (retries : Nat) (s : Status) : Prop :=
  x.runs.length = retries + 1 ∧ ∀ v ∈ x.runs, v.status = s

/-- The verdict of an execution has been confirmed exactly if there are no repetitions, or it is a
change of the status with which the execution began. -/
theorem Course.Ended.confirmed_iff {x : Course} {retries n : Nat} {previous : Status}
    {before : List Verdict} {v : Verdict} (ended : x.Ended retries n previous before v) :
    x.Confirmed retries v.status ↔ retries = 0 ∨ previous.isTransition v.status = true := by
  rw [Course.Confirmed, ended.runs, List.length_append, List.length_singleton]
  constructor
  · rintro ⟨count, same⟩
    cases before with
    | nil => exact .inl (by simpa using count.symm)
    | cons first rest =>
        have change := ended.changes first List.mem_cons_self
        rw [same first (by simp)] at change
        exact .inr change
  · intro reason
    have count : before.length = retries := by
      rcases reason with rfl | change
      · have := ended.count
        omega
      · exact ended.confirmed change
    refine ⟨by omega, fun u mem => ?_⟩
    rcases List.mem_append.mp mem with earlier | last
    · rcases reason with rfl | change
      · rw [List.length_eq_zero_iff.mp count] at earlier
        cases earlier
      · exact Status.eq_of_isTransition (ended.changes u earlier) change
    · rw [List.mem_singleton.mp last]

/-! ### Where live states are -/

/-- The services that are sent to the pool in a step, and those that the leader has then still to
send. -/
def announced (acts : List Act) (l : Watch.Leader) : List Monitored :=
  acts.filterMap Act.sent? ++ l.toSend

theorem announced_send (w : Watch) (goal : Watch.Goal) (began : Nat) (pause : Clock.Duration)
    (m : Monitored) (rest : List Monitored) :
    announced (w.send goal began pause m rest).2 (w.send goal began pause m rest).1.leader =
    m :: rest ∧
      (w.send goal began pause m rest).1.roster = w.roster := by
  cases rest with
  | nil => exact ⟨rfl, rfl⟩
  | cons => exact ⟨rfl, rfl⟩

/-- A round sends nobody who is not in the roster. -/
theorem announced_dispatch (w : Watch) (goal : Watch.Goal) (began : Nat) {job : Monitored}
    (mem : job ∈ announced (w.dispatch goal began).2 (w.dispatch goal began).1.leader) :
    job ∈ (w.dispatch goal began).1.roster.list := by
  have perm := w.shuffle.perm w.now w.roster.list
  unfold Watch.dispatch at mem ⊢
  split at mem
  · cases mem
  · rename_i m rest order
    obtain ⟨same, roster⟩ := announced_send w goal began _ m rest
    rw [same, ← order] at mem
    rw [roster]
    exact perm.mem_iff.mp mem

theorem announced_endRound (w : Watch) (goal : Watch.Goal) (more : Bool) :
    announced (w.endRound goal more).2 (w.endRound goal more).1.leader = [] := by
  cases goal with
  | run =>
      cases more with
      | true => rfl
      | false => rfl
  | refresh | round | terminate | close => rfl

/-- What the leader sends to the pool, and what it means to send, comes from the roster. -/
theorem announced_lead (lead : Lead w w' acts) {job : Monitored}
    (mem : job ∈ announced acts w'.leader) :
    job ∈ w.leader.toSend ∨ job ∈ w'.roster.list := by
  have none (goal : Watch.Goal) (more : Bool) {u : Watch}
      (mem : job ∈ announced (u.endRound goal more).2 (u.endRound goal more).1.leader) : False := by
    rw [announced_endRound] at mem
    cases mem
  cases lead with
  | awakes | refreshes | hasSent | drains | aborts | hasAborted | stops => cases mem
  | merges => exact .inr (announced_dispatch _ _ _ mem)
  | stopsFetching => exact (none _ _ mem).elim
  | sends leader =>
      rw [(announced_send w _ _ _ _ _).1] at mem
      exact .inl (by rwa [leader])
  | stopsSending | ends | stopsWaiting => exact (none _ _ mem).elim
  | @hasRecorded goal =>
      rcases Watch.endPool_cases w goal with same | same
      all_goals
        rw [same] at mem
        cases mem
  | @dismisses goal =>
      rcases Watch.endPool_cases (w.dismiss .aborted) goal with same | same
      all_goals
        rw [same] at mem
        cases mem

/-- What is sent to the pool comes from the roster, or its live state is there. -/
theorem Doing.announced (doing : Doing w d w' acts) {job : Monitored}
    (mem : job ∈ announced acts w'.leader) :
    job ∈ w.leader.toSend ∨ job ∈ w'.roster.list ∨ job.cell < w.roster.lives.length := by
  cases doing with
  | works labor =>
      rw [Shift.announced, labor.frame.leader] at mem
      cases labor with
      | seeks | leaves | takes | begins | pauses | concludes | repeats | drops => exact .inl mem
  | records recording =>
      cases recording with
      | records | finishes => exact .inl mem
  | leads done => exact (announced_lead (Watch.lead_of_moveLeader done) mem).imp_right .inl
  | @engages goal =>
      cases goal with
      | refresh | round | run | terminate | close => cases mem
  | ticks => exact .inl mem
  | rests _ _ sent leader =>
      rw [Shift.announced, leader] at mem
      rcases List.mem_append.mp mem with mem | mem
      · exact .inr (.inr (sent job mem))
      · exact .inl mem

/-! ### What an execution still knows -/

namespace Course

/-- An execution that has begun knows the status of its service, as long as no verdict has been
recorded on the same live state since then. -/
def Knows (x : Course) (recorded : List Finding) (r : Roster) : Prop :=
  ∀ n previous, x.began = some (n, previous) → n ≤ recorded.length ∧
    ((∀ f ∈ recorded.drop n, f.job.cell ≠ x.job.cell) → (r.live x.job).status = previous)

variable {x : Course} {recorded : List Finding} {r r' : Roster}

theorem Knows.longer (knows : x.Knows recorded r) (inside : x.job.cell < r.lives.length)
    (more : r.lives <+: r'.lives) : x.Knows recorded r' := by
  intro n previous began
  rw [Roster.live_of_longer more inside]
  exact knows n previous began

theorem Knows.record (knows : x.Knows recorded r) (inside : x.job.cell < r.lives.length)
    (f : Finding)
    (time : Clock.Instant) : x.Knows (recorded ++ [f]) (r.record f.job f.verdict time).1 := by
  intro n previous began
  obtain ⟨early, known⟩ := knows n previous began
  refine ⟨by simp; omega, fun apart => ?_⟩
  rw [List.drop_append_of_le_length early, List.forall_mem_append, List.forall_mem_singleton]
    at apart
  rw [Roster.live_record r inside, if_neg apart.2]
  exact known apart.1

/-- When its first run begins, an execution looks at the status of its service. -/
theorem Knows.run (knows : x.Knows recorded r) {e : Execution} {due : Nat} {v : Verdict}
    (looks : x.began = none → (r.live x.job).status = e.previous) :
    (x.run recorded.length (.checking e due v)).Knows recorded r := by
  intro n previous began
  cases before : x.began with
  | none =>
      rw [Course.run, before] at began
      cases began
      exact ⟨Nat.le_refl _, fun _ => looks before⟩
  | some first =>
      rw [Course.run, before] at began
      exact knows n previous (before.trans began)

end Course

namespace Chronicle

/-- All executions that have not been recorded know what they may, and all live states are there. -/
structure Steady (k : Chronicle) (w : Watch) : Prop where
  roster : w.roster.Sound
  inside : ∀ job ∈ k.taken ++ w.pool.jobs ++ w.leader.toSend, job.cell < w.roster.lives.length
  knows : ∀ x ∈ k.going ++ k.concluded.drop k.recorded.length, x.Knows k.recorded w.roster

theorem Follows.mem_taken (follows : k.Follows w) {x : Course} (mem : x ∈ k.courses) :
    x.job ∈ k.taken := by
  have taking : x.taking ∈ k.taken.zipIdx := follows.takings.mem_iff.mp (List.mem_map_of_mem mem)
  exact (List.mem_zipIdx' taking).2 ▸ List.getElem_mem _

section Steady

variable (steady : k.Steady w) (follows : k.Follows w)
include steady follows

/-- The live states of the executions are there. -/
theorem Steady.cell_lt {x : Course} (mem : x ∈ k.going ++ k.concluded.drop k.recorded.length) :
    x.job.cell < w.roster.lives.length := by
  have course : x ∈ k.courses := by
    refine List.mem_append_left _ ?_
    rcases List.mem_append.mp mem with going | concluded
    · exact List.mem_append_left _ going
    · exact List.mem_append_right _ (List.mem_of_mem_drop concluded)
  exact steady.inside _ (List.mem_append_left _ (List.mem_append_left _ (follows.mem_taken course)))

/-- A worker that begins, repeats or ends an execution leaves all others what they know. -/
theorem Steady.knows_work (labor : Labor w i w' acts) :
    ∀ x ∈ (k.note ⟨w, .watch (.move (.worker i)), acts, w'⟩).going ++
      (k.note ⟨w, .watch (.move (.worker i)), acts, w'⟩).concluded.drop k.recorded.length,
      x.Knows k.recorded w.roster := by
  have knows := steady.knows
  have inside := labor.inside
  have runs {e : Execution} (looks : ∀ x ∈ k.going, x.worker = i → x.began = none →
      (w.roster.live x.job).status = e.previous) :
      ∀ x ∈ (k.going.map fun x => if x.worker = i then
        x.run k.recorded.length ((w.check i e).1.pool.worker i) else x) ++
        k.concluded.drop k.recorded.length, x.Knows k.recorded w.roster := by
    obtain ⟨due, v, -, checking⟩ := w.worker_check inside e
    rw [List.forall_mem_append] at knows ⊢
    refine ⟨fun y mem => ?_, knows.2⟩
    obtain ⟨x, going, rfl⟩ := List.mem_map.mp mem
    split
    · rename_i mine
      rw [checking]
      exact (knows.1 x going).run (looks x going mine)
    · exact knows.1 x going
  cases labor with
  | seeks | leaves | pauses | drops => exact knows
  | takes =>
      rw [List.forall_mem_append] at knows ⊢
      refine ⟨List.forall_mem_append.mpr ⟨knows.1, fun x new => ?_⟩, knows.2⟩
      cases List.mem_singleton.mp new
      exact nofun
  | begins here =>
      refine runs fun x going mine _ => ?_
      have works := follows.here x going
      rw [mine, here] at works
      cases works with
      | holding => rfl
  | concludes =>
      intro x mem
      refine knows x ?_
      rcases List.mem_append.mp mem with going | last
      · exact List.mem_append_left _ (List.mem_of_mem_filter going)
      · have last : x ∈ (k.concluded ++ k.going.filter (·.worker = i)).drop k.recorded.length :=
          last
        rw [List.drop_append] at last
        rcases List.mem_append.mp last with concluded | new
        · exact List.mem_append_right _ concluded
        · exact List.mem_append_left _ (List.mem_of_mem_filter (List.mem_of_mem_drop new))
  | repeats here =>
      refine runs fun x going mine none => ?_
      have works := follows.here x going
      rw [mine, here] at works
      cases works with
      | pausing tried =>
          obtain ⟨n, began⟩ := tried.began
          cases none.symm.trans began

/-- What an execution knows, it knows after every deed as well. -/
theorem Steady.knows_note (done : act? w d = some (w', acts)) :
    ∀ x ∈ (k.note ⟨w, d, acts, w'⟩).going ++
      (k.note ⟨w, d, acts, w'⟩).concluded.drop (k.note ⟨w, d, acts, w'⟩).recorded.length,
      x.Knows (k.note ⟨w, d, acts, w'⟩).recorded w'.roster := by
  have inside {x : Course} (mem : x ∈ k.going ++ k.concluded.drop k.recorded.length) :=
    steady.cell_lt follows mem
  cases effect_of_act? done with
  | @works i _ _ labor =>
      have recorded : (k.note ⟨w, .watch (.move (.worker i)), acts, w'⟩).recorded = k.recorded := by
        cases labor with
        | seeks | leaves | takes | begins | pauses | concludes | repeats | drops => rfl
      rw [recorded, labor.frame.roster]
      exact steady.knows_work follows labor
  | records recording =>
      cases recording with
      | @records job v =>
          intro x mem
          have before : x ∈ k.going ++ k.concluded.drop k.recorded.length := by
            rcases List.mem_append.mp mem with going | concluded
            · exact List.mem_append_left _ going
            · have concluded : x ∈ k.concluded.drop (k.recorded ++ [(⟨job, v⟩ : Finding)]).length :=
                concluded
              rw [List.length_append, ← List.drop_drop] at concluded
              exact List.mem_append_right _ (List.mem_of_mem_drop concluded)
          exact (steady.knows x before).record (inside before) ⟨job, v⟩ w.instant
      | finishes =>
          rw [Chronicle.note, Moment.recorded, List.filterMap_nil, List.append_nil]
          exact steady.knows
  | aborts _ note =>
      rw [note]
      exact fun x mem => steady.knows x (List.mem_append_right _ mem)
  | nothing quiet =>
      rw [quiet.note]
      exact fun x mem => (steady.knows x mem).longer (inside mem) quiet.lives

end Steady

/-- Steadiness is kept by every deed, whatever it means for the executions. -/
theorem Steady.note (steady : k.Steady w) (follows : k.Follows w)
    (done : act? w d = some (w', acts)) : (k.note ⟨w, d, acts, w'⟩).Steady w' := by
  have lives : w.roster.lives.length ≤ w'.roster.lives.length ∧ w'.roster.Sound := by
    cases effect_of_act? done with
    | works labor =>
        rw [labor.frame.roster]
        exact ⟨Nat.le_refl _, steady.roster⟩
    | records recording =>
        cases recording with
        | @records job v =>
            have same : (w.roster.record job v w.instant).1.lives.length =
              w.roster.lives.length := by
              simp [Roster.record, Roster.setLive]
            refine ⟨Nat.le_of_eq same.symm, fun id e found => ?_⟩
            exact Nat.lt_of_lt_of_eq (steady.roster id e found) same.symm
        | finishes => exact ⟨Nat.le_refl _, steady.roster⟩
    | aborts => exact ⟨Nat.le_refl _, steady.roster⟩
    | nothing quiet => exact ⟨quiet.lives.length_le, quiet.sound steady.roster⟩
  have taken := (effect_of_act? done).taken k
  refine ⟨lives.2, fun job mem => ?_, steady.knows_note follows done⟩
  -- the services on their way are those of before, and those that have been announced
  have mem : job ∈ k.taken ∨ job ∈ w.pool.jobs ∨ job ∈ announced acts w'.leader := by
    have jobs : job ∈ w.pool.jobs ++ acts.filterMap Act.sent? ↔
        job ∈ acts.filterMap Act.took? ++ w'.pool.jobs := by rw [jobs_of_act? done]
    simp only [taken, announced, List.mem_append] at mem jobs ⊢
    tauto
  have before (mem : job ∈ k.taken ++ w.pool.jobs ++ w.leader.toSend) :
      job.cell < w'.roster.lives.length := Nat.lt_of_lt_of_le (steady.inside job mem) lives.1
  rcases mem with taken | waiting | announced
  · exact before (by simp [taken])
  · exact before (by simp [waiting])
  · rcases (doing_of_act? done).announced announced with pacing | listed | inside
    · exact before (by simp [pacing])
    · obtain ⟨id, found⟩ := Roster.mem_list.mp listed
      exact lives.2 id job found
    · exact Nat.lt_of_lt_of_le inside lives.1

end Chronicle

theorem Run.steady {past : List Moment} (run : Run w past w') (follows : k.Follows w)
    (steady : k.Steady w) :
    (past.foldl .note k).Follows w' ∧ (past.foldl .note k).Steady w' :=
  run.keeps (p := fun w k => k.Follows w ∧ k.Steady w) (q := fun _ => True)
    (fun done _ both => ⟨both.1.note done, both.2.note both.1 done⟩) (fun _ _ => trivial)
    ⟨follows, steady⟩

/-! ### What is reported -/

def Moment.reported (m : Moment) : List Event := m.acts.flatMap fun
  | .recorded job v => (m.before.roster.record job v m.before.instant).2
  | _ => []

theorem Chronicle.Steady.ofSize {size : Nat} {c : Confirmation} (pool : w.pool = .ofSize size c)
    (idle : w.leader = .idle) (sound : w.roster.Sound) : blank.Steady w := by
  refine ⟨sound, fun job mem => ?_, fun x mem => nomatch mem⟩
  rw [pool, idle] at mem
  cases mem

/-- Where a verdict is recorded, it is the first one that is on its way. -/
theorem recording_of_recorded {job : Monitored} {v : Verdict} (done : act? w d = some (w', acts))
    (told : .recorded job v ∈ acts) :
    acts = [.recorded job v] ∧ (∃ rest, w.pool.findings = ⟨job, v⟩ :: rest) ∧
      w'.writer = (w.roster.record job v w.instant).2.foldl .accept w.writer := by
  cases d with
  | order job =>
      simp only [act?] at done
      split at done
      · cases done
        cases List.mem_singleton.mp told
      · cases done
  | watch d =>
      rcases Watch.of_isWork done told rfl with ⟨i, labor⟩ | recording | ⟨turn, written, rfl, -⟩
      · cases labor with
        | seeks | leaves | pauses | drops => cases told
        | takes | begins | concludes | repeats => cases List.mem_singleton.mp told
      · cases recording with
        | records running first =>
            cases List.mem_singleton.mp told
            exact ⟨rfl, ⟨_, first⟩, rfl⟩
        | finishes => cases told
      · obtain ⟨act, -, same⟩ := List.mem_map.mp told
        cases same

/-- The first verdict on its way is that of the first execution that has not been recorded. -/
theorem Chronicle.Follows.first (follows : k.Follows w) {f : Finding} {rest : List Finding}
    (first : w.pool.findings = f :: rest) :
    ∃ x, k.concluded[k.recorded.length]? = some x ∧ x.finding? = some f := by
  have here : (k.concluded.map Course.finding?)[k.recorded.length]? = some (some f) := by
    rw [follows.findings, first]
    simp
  rw [List.getElem?_map] at here
  exact Option.map_eq_some_iff.mp here

/-- The verdicts that are recorded are those of the executions that have come to one, in that order.
If one of them is reported as a change of the status, it has been confirmed - each of the runs that
there may be was made, and all of them tell that status - or another verdict has been recorded on
the same live state since its execution began. And it has been confirmed exactly if there are no
repetitions, or it is a change of the status with which its execution began. -/
theorem confirmed_of_reported {size : Nat} {c : Confirmation} {past : List Moment}
    (pool : w.pool = .ofSize size c) (idle : w.leader = .idle) (sound : w.roster.Sound)
    (run : Run w past w') :
    ∀ earlier m later, past = earlier ++ m :: later → ∀ job v, .recorded job v ∈ m.acts →
      m.after.writer = m.reported.foldl .accept m.before.writer ∧
      ∃ x n previous,
        (chronicle earlier).concluded[(chronicle earlier).recorded.length]? = some x ∧
        x.finding? = some ⟨job, v⟩ ∧ x.began = some (n, previous) ∧
        (x.Confirmed c.retries v.status ↔ c.retries = 0 ∨ previous.isTransition v.status = true) ∧
        ∀ s ∈ m.reported.filterMap Event.status?, s = v.status ∧ (x.Confirmed c.retries s ∨
          ∃ f ∈ (chronicle earlier).recorded.drop n, f.job.cell = job.cell) := by
  rintro earlier m later rfl job v told
  obtain ⟨before, done, -⟩ := run.split
  obtain ⟨follows, steady⟩ := before.steady (.ofSize pool) (.ofSize pool idle sound)
  have retries : m.before.pool.confirmation = c := by rw [before.frame.2, pool]; rfl
  obtain ⟨acts, ⟨rest, first⟩, writer⟩ := recording_of_recorded done told
  have reported : m.reported = (m.before.roster.record job v m.before.instant).2 := by
    rw [Moment.reported, acts]
    exact List.append_nil _
  obtain ⟨x, here, finding⟩ := follows.first first
  obtain ⟨n, previous, runs, u, ended⟩ := follows.ended x (List.mem_of_getElem? here)
  rw [retries] at ended
  have same : (⟨x.job, u⟩ : Finding) = ⟨job, v⟩ :=
    Option.some.inj (ended.finding?.symm.trans finding)
  cases same
  refine ⟨reported ▸ writer, x, n, previous, here, finding, ended.began, ended.confirmed_iff, ?_⟩
  intro s mem
  rw [reported, Roster.record, Live.status?_events] at mem
  split at mem
  · rename_i change
    cases List.mem_singleton.mp mem
    refine ⟨rfl, ?_⟩
    by_cases other : ∃ f ∈ (chronicle earlier).recorded.drop n, f.job.cell = x.job.cell
    · exact .inr other
    · have waiting : x ∈ (chronicle earlier).concluded.drop
        (chronicle earlier).recorded.length := by
        have first : ((chronicle earlier).concluded.drop
            (chronicle earlier).recorded.length)[0]? = some x := by
          rw [List.getElem?_drop]
          exact here
        exact List.mem_of_getElem? first
      have known := (steady.knows x (List.mem_append_right _ waiting) n previous ended.began).2
        fun f mem same => other ⟨f, mem, same⟩
      exact .inl (ended.confirmed_iff.mpr (.inr (known ▸ change)))
  · cases mem

/-! ### Two checks of one service at a time -/

/-- Where a schedule ends with a moment of a kind, there is a run that does. -/
theorem exists_last (w : Watch) (deeds : List Deed) (q : List Moment → Moment → Prop)
    [∀ earlier m, Decidable (q earlier m)]
    (happens : (play? w deeds).any (fun r => r.1.getLast?.any fun m => q r.1.dropLast m) = true) :
    ∃ earlier m w', Run w (earlier ++ [m]) w' ∧ q earlier m := by
  obtain ⟨⟨past, w'⟩, played, ends⟩ := (Option.any_eq_true _ _).mp happens
  obtain ⟨m, last, check⟩ := (Option.any_eq_true _ _).mp ends
  refine ⟨past.dropLast, m, w', ?_, of_decide_eq_true check⟩
  rw [List.dropLast_append_getLast? m last]
  exact run_of_play? deeds played

/-- Two workers, and a service that is up. A change is confirmed once, after a tenth of a second. -/
def service (behaviours : List Behaviour) : Watch :=
  { Watch.ofParts ⟨fun _ => none, .ofSecs 60, .ofSecs 2⟩
      ⟨[], true, [], Keyed.empty.insert 1 (.ofList behaviours), []⟩
      (.ofSize 2 ⟨1, .ofMillis 100⟩) default with
    roster := ⟨.empty, [⟨.up, none⟩], 1⟩ }

def refused (delay : Nat) : Behaviour := ⟨delay, .verdict (.down "refused")⟩

def outage : List Deed :=
  .order (longCheck 1 0) ::
    (([.worker 0, .worker 0, .worker 0, .worker 0].map fun t => .watch (.move t)) ++
      .watch (.tick 100) :: [.worker 0, .worker 0, .recorder].map fun t => .watch (.move t))

theorem outage_confirmed :
    ∃ earlier m w' x, Run (service [refused 0]) (earlier ++ [m]) w' ∧
      m.reported.filterMap Event.status? = [.down] ∧
      (chronicle earlier).concluded[(chronicle earlier).recorded.length]? = some x ∧
      x.Confirmed 1 .down := by
  obtain ⟨earlier, m, w', run, acts, reported, none⟩ :=
    exists_last (service [refused 0]) outage
      (fun earlier m => m.acts = [.recorded (longCheck 1 0) (.down "refused")] ∧
        m.reported.filterMap Event.status? = [.down] ∧ (chronicle earlier).recorded = [])
      (by decide +kernel)
  have sound : (service [refused 0]).roster.Sound := fun _ _ found => nomatch found
  have pool : (service [refused 0]).pool = .ofSize 2 ⟨1, .ofMillis 100⟩ := rfl
  obtain ⟨-, x, n, previous, here, -, -, -, told⟩ :=
    confirmed_of_reported pool rfl sound run earlier m [] rfl (longCheck 1 0) (.down "refused")
      (acts ▸ List.mem_singleton_self _)
  obtain ⟨-, confirmed | ⟨f, mem, -⟩⟩ := told .down (reported ▸ List.mem_singleton_self _)
  · exact ⟨earlier, m, w', x, run, reported, here, confirmed⟩
  · rw [none, List.drop_nil] at mem
    cases mem

/-- The service is sent to the pool twice. The first check finds it down and confirms that, while
the only run of the second one, which takes a second, finds it up. -/
def overlap : List Deed :=
  [.order (longCheck 1 0), .order (longCheck 1 0)] ++
    ([.worker 0, .worker 1, .worker 0, .worker 0, .worker 0, .worker 1, .worker 1].map
      fun t => .watch (.move t)) ++
    .watch (.tick 100) :: ([.worker 0, .worker 0, .recorder, .worker 0].map fun t =>
        .watch (.move t)) ++
    .watch (.tick 1000) :: [.worker 1, .recorder].map fun t => .watch (.move t)

/-- Though changes are to be confirmed, the event that the service is up again is sent after a
single run. -/
theorem unconfirmed_recovery_is_reported :
    ∃ earlier m w',
      Run (service [refused 0, ⟨1000, .verdict (.up "OK")⟩, refused 0]) (earlier ++ [m]) w' ∧
      (∀ m' ∈ earlier ++ [m], m'.onClock = true) ∧
      m.reported.filterMap Event.status? = [.up] ∧
      ∃ x, (chronicle earlier).concluded[(chronicle earlier).recorded.length]? = some x ∧
        x.runs.length = 1 ∧ ¬ x.Confirmed 1 .up := by
  obtain ⟨earlier, m, w', run, clock, reported, single⟩ :=
    exists_last (service [refused 0, ⟨1000, .verdict (.up "OK")⟩, refused 0]) overlap
      (fun earlier m => (∀ m' ∈ earlier ++ [m], m'.onClock = true) ∧
        m.reported.filterMap Event.status? = [.up] ∧
        ((chronicle earlier).concluded[(chronicle earlier).recorded.length]?.any
          fun x => x.runs.length = 1) = true)
      (by decide +kernel)
  obtain ⟨x, here, once⟩ := (Option.any_eq_true _ _).mp single
  have once : x.runs.length = 1 := of_decide_eq_true once
  refine ⟨earlier, m, w', run, clock, reported, x, here, once, fun confirmed => ?_⟩
  have count := confirmed.1
  omega

end Shift

end Vigil
