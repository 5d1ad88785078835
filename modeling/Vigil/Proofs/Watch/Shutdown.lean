import Vigil.Proofs.Pool.Labor
import Vigil.Proofs.Watch.Ending
import Vigil.Proofs.Watch.Grid
import Vigil.Proofs.Writer.Run

/-!
The end of a watch: the leader stops the pool and waits for its workers, then for the recorder, and
only then asks the writer for its end. So nobody works any more for those who have already gone.

Main definition: `Watch.Orderly`, what this order keeps true. Main statement: `Watch.ends_in_order`.
-/

namespace Vigil

namespace Writer

/-- Events that are sent to a writer are all accepted or all lost. -/
theorem foldl_accept (x : Writer) (events : List Event) :
    events.foldl accept x =
      { x with incoming := x.incoming ++ if x.accepting then events else [] } := by
  induction events generalizing x with
  | nil => cases x with | mk => simp
  | cons e rest ih =>
      rw [List.foldl_cons, ih]
      cases accepts : x.accepting with
      | false => simp [accept, accepts]
      | true => simp [accept, accepts]

/-- Whether the writer is down, or goes down with the commit that is under way. -/
def Phase.isFatal : Phase → Bool
  | .committing _ _ .crash | .flushCommitting _ _ .crash _ | .crashed => true
  | _ => false

/-- Only a commit takes a writer down. -/
theorem crash_of_move {x next : Writer} {now : Nat} {c : Commit} {hears : Bool} {acts : List Act}
    (moved : x.move now c hears = some (next, acts)) (fatal : next.phase.isFatal = true) :
    x.phase.isFatal = true ∨ c.outcome = .crash := by
  cases turn_of_move moved with
  | beginFirst | beginComing | beginLast =>
      cases outcome : c.outcome with
      | crash => exact .inr rfl
      | stored | refused =>
          rw [outcome] at fatal
          cases fatal
  | turnToEnd =>
      dsimp only at fatal
      split at fatal
      · cases fatal
      · cases fatal
  | settleDown | store | putBack | spill | wake | finish | storeLast | giveUpLast | cutShort =>
      cases fatal
  | goDown held =>
      -- in the step in which it goes down, the writer ends a commit
      have down := congrArg (Option.map fun next => next.1.phase) moved
      cases phase : x.phase with
      | unstarted | ready | waiting | resting | flushing | finished | crashed =>
          rw [phase] at held
          cases held
      | committing e due outcome =>
          cases outcome with
          | crash => exact .inl rfl
          | stored | refused =>
              simp only [move, phase] at down
              split at down
              · cases down
              · cases down
      | flushCommitting e due outcome limit =>
          cases outcome with
          | crash => exact .inl rfl
          | stored | refused =>
              simp only [move, phase] at down
              split at down
              · cases down
              · split at down
                · cases down
                · cases down

end Writer

namespace Watch

/-- The leader has left its rounds for good. -/
def Lifecycle.isLeft : Lifecycle → Bool
  | .draining | .stopped => true
  | _ => false

/-- Whether the leader knows that the workers have come to their end. -/
def Leader.isPastWorkers : Leader → Bool
  | .recording .. | .closing => true
  | _ => false

/-- The writer is told of its end only when nobody is left to send it events. Until then it accepts
them, unless a commit takes it down. -/
structure Heard (writer : Writer) (recorder : Recorder) : Prop where
  after : writer.stopping = true ∨ writer.abandoned = true → recorder ≠ .running
  accepting : writer.accepting = true ∨ writer.stopping = true ∨ writer.abandoned = true ∨
    writer.phase = .crashed

/-- Those who work for others come to their end before those for whom they work. -/
structure Orderly (w : Watch) : Prop where
  heard : Heard w.writer w.pool.recorder
  stopped : w.leader.isEnding = true ∨ w.lifecycle.isLeft = true → w.pool.stopped = true
  settled : w.leader.isPastWorkers = true ∨ w.lifecycle = .stopped → w.pool.isOver = true
  recorded : w.leader = .closing ∨ w.lifecycle = .stopped → w.pool.recorder ≠ .running
  written : w.lifecycle = .stopped → w.writerIsOver = true

structure Kept (w w' : Watch) : Prop where
  heard : Heard w.writer w.pool.recorder → Heard w'.writer w'.pool.recorder
  stopped : w.pool.stopped = true → w'.pool.stopped = true
  isOver : w.pool.isOver = true → w'.pool.isOver = true
  gone : w.pool.recorder ≠ .running → w'.pool.recorder ≠ .running
  written : w.writerIsOver = true → w'.writerIsOver = true

variable {w w' : Watch} {acts : List Act} {i : Nat}

/-! ### What others do -/

/-- A step that leaves the writer and the recorder alone. -/
theorem Kept.of_writer (writer : w'.writer = w.writer)
    (recorder : w'.pool.recorder = w.pool.recorder)
    (stopped : w.pool.stopped = true → w'.pool.stopped = true)
    (isOver : w.pool.isOver = true → w'.pool.isOver = true) : Kept w w' where
  heard heard := by rwa [writer, recorder]
  stopped := stopped
  isOver := isOver
  gone gone := recorder ▸ gone
  written isOver := by rwa [writerIsOver, writer]

theorem Labor.kept (labor : Labor w i w' acts) : Kept w w' := by
  have frame := labor.frame
  refine .of_writer frame.writer frame.recorder
    (fun stopped => frame.stopped.trans stopped) fun isOver => ?_
  have going := labor.not_isOver
  rw [Pool.isOver_iff.mp isOver i] at going
  cases going

theorem Recording.kept (recording : Recording w w' acts) : Kept w w' := by
  cases recording with
  | records running =>
      refine ⟨fun heard => ⟨?_, ?_⟩, id, id, id, fun isOver => ?_⟩
      · rw [Writer.foldl_accept]
        exact heard.after
      · rw [Writer.foldl_accept]
        exact heard.accepting
      · rw [writerIsOver, Writer.foldl_accept]
        exact isOver
  | finishes =>
      exact ⟨fun _ => ⟨fun _ => nofun, .inr (.inr (.inl rfl))⟩, id, id, fun _ => nofun, id⟩

theorem kept_of_moveWriter (done : w.moveWriter = some (w', acts)) : Kept w w' := by
  obtain ⟨⟨writer, written⟩, moved, same⟩ := Option.map_eq_some_iff.mp done
  cases same
  have turn := Writer.turn_of_move moved
  refine ⟨fun heard => ?_, id, id, id, fun isOver => ?_⟩
  · cases turn with
    | turnToEnd phase ended =>
        refine ⟨heard.after, ?_⟩
        rcases ended with stopping | ⟨-, -, abandoned⟩
        · exact .inr (.inl stopping)
        · exact .inr (.inr (.inl abandoned))
    | goDown => exact ⟨heard.after, .inr (.inr (.inr rfl))⟩
    | settleDown phase | beginFirst phase | beginComing phase | store phase | putBack phase
    | spill phase | wake phase | finish phase | beginLast phase | storeLast phase | giveUpLast phase
    | cutShort phase =>
        refine ⟨heard.after, ?_⟩
        have accepting := heard.accepting
        simpa [phase] using accepting
  · simp only [writerIsOver, Writer.isOver, Bool.or_eq_true, decide_eq_true_eq] at isOver
    rcases isOver with phase | phase | phase <;> simp [Writer.move, phase] at moved

/-- What others than the leader do. -/
theorem kept_of_others {d : Deed} (done : w.act? d = some (w', acts)) (other : d.byLeader = false) :
    Kept w w' ∧ w'.lifecycle = w.lifecycle := by
  have still {u : Watch} (writer : u.writer = w.writer) (pool : u.pool = w.pool)
      (lifecycle : u.lifecycle = w.lifecycle) : Kept w u ∧ u.lifecycle = w.lifecycle :=
    ⟨.of_writer writer (by rw [pool]) (by rw [pool]; exact id) (by rw [pool]; exact id), lifecycle⟩
  cases d with
  | call => cases other
  | move t =>
      cases t with
      | leader => cases other
      | worker i =>
          have labor := labor_of_moveWorker done
          exact ⟨labor.kept, labor.frame.lifecycle⟩
      | recorder =>
          have recording := recording_of_moveRecorder done
          refine ⟨recording.kept, ?_⟩
          cases recording with
          | records => rfl
          | finishes => rfl
      | writer =>
          refine ⟨kept_of_moveWriter done, ?_⟩
          obtain ⟨⟨writer, written⟩, -, same⟩ := Option.map_eq_some_iff.mp done
          cases same
          rfl
      | canceller =>
          simp only [act?, move, moveCanceller] at done
          split at done
          · cases done
          · split at done
            · cases done
            · cases done
              exact still rfl rfl rfl
  | tick =>
      simp only [act?] at done
      split at done
      · cases done
        exact still rfl rfl rfl
      · cases done
  | restage | arm =>
      cases done
      exact still rfl rfl rfl

/-! ### What the leader does -/

theorem Rounds.kept (rounds : Rounds w w') : Kept w w' := by
  have pool := rounds.pool
  refine .of_writer rounds.writer ?_ ?_ ?_
  · rw [pool]
  · exact pool ▸ id
  · exact pool ▸ id

theorem Orderly.aside (orderly : w.Orderly) (kept : Kept w w') (leader : w'.leader = w.leader)
    (lifecycle : w'.lifecycle = w.lifecycle) : w'.Orderly where
  heard := kept.heard orderly.heard
  stopped ended := kept.stopped (orderly.stopped (leader ▸ lifecycle ▸ ended))
  settled ended := kept.isOver (orderly.settled (leader ▸ lifecycle ▸ ended))
  recorded ended := kept.gone (orderly.recorded (leader ▸ lifecycle ▸ ended))
  written ended := kept.written (orderly.written (lifecycle ▸ ended))

/-- The leader goes on with its rounds, or has nothing to do. -/
theorem Orderly.goesOn (orderly : w.Orderly) (kept : Kept w w') (going : w'.leader.isEnding = false)
    (lifecycle : w'.lifecycle.isLeft = true → w'.lifecycle = w.lifecycle) : w'.Orderly := by
  have past : w'.leader.isPastWorkers ≠ true := by
    intro past
    cases leader : w'.leader with
    | recording | closing =>
        rw [leader] at going
        cases going
    | idle | sleeping | fetching | pacing | waiting | draining | aborting =>
        rw [leader] at past
        cases past
  have closing : w'.leader ≠ .closing := by
    intro leader
    rw [leader] at going
    cases going
  have stopped (ended : w'.lifecycle = .stopped) : w.lifecycle = .stopped :=
    (lifecycle (by rw [ended]; rfl)).symm.trans ended
  refine ⟨kept.heard orderly.heard, fun ended => ?_, fun ended => ?_, fun ended => ?_,
    fun ended => ?_⟩
  · rcases ended with ending | left
    · rw [going] at ending
      cases ending
    · exact kept.stopped (orderly.stopped (.inr (lifecycle left ▸ left)))
  · exact kept.isOver (orderly.settled (.inr (stopped (ended.resolve_left past))))
  · exact kept.gone (orderly.recorded (.inr (stopped (ended.resolve_left closing))))
  · exact kept.written (orderly.written (stopped ended))

/-- The last steps wait for each other: for the workers, then for the recorder, then for the writer.
-/
theorem Orderly.closing (orderly : w.Orderly) (closing : Closing w w' acts) : w'.Orderly := by
  have ending (leader : w.leader.isEnding = true) : w.pool.stopped = true :=
    orderly.stopped (.inl leader)
  -- a leader that ends the pool for its own sake has nothing to do then
  have rests {u : Watch} (kept : Kept w u) (same : u.lifecycle = w.lifecycle) :
      Orderly { u with leader := .idle } :=
    orderly.goesOn ⟨kept.heard, kept.stopped, kept.isOver, kept.gone, kept.written⟩ rfl fun _ =>
      same
  cases closing with
  | drains leader isOver | hasAborted leader isOver =>
      refine ⟨orderly.heard, fun _ => ending (by rw [leader]; rfl), fun _ => isOver,
        fun ended => ?_,
        orderly.written⟩
      exact orderly.recorded (.inr (ended.resolve_left nofun))
  | aborts leader =>
      refine ⟨orderly.heard, fun _ => ending (by rw [leader]; rfl), fun ended => ?_,
        fun ended => ?_, orderly.written⟩
      · have isOver := orderly.settled (.inr (ended.resolve_left nofun))
        rw [Pool.isOver_iff] at isOver ⊢
        intro i
        rw [Pool.worker_abort, if_pos (isOver i)]
        exact isOver i
      · exact orderly.recorded (.inr (ended.resolve_left nofun))
  | @hasRecorded goal due leader gone =>
      rcases endPool_cases w goal with same | same
      · rw [same]
        exact ⟨⟨fun _ => gone, .inr (.inl rfl)⟩, fun _ => ending (by rw [leader]; rfl),
          fun _ => orderly.settled (.inl (by rw [leader]; rfl)), fun _ => gone, orderly.written⟩
      · rw [same]
        exact rests (.of_writer rfl rfl id id) rfl
  | @dismisses goal due leader =>
      rcases endPool_cases (w.dismiss .aborted) goal with same | same
      · rw [same]
        exact ⟨⟨fun _ => nofun, .inr (.inl rfl)⟩, fun _ => ending (by rw [leader]; rfl),
          fun _ => orderly.settled (.inl (by rw [leader]; rfl)), fun _ => nofun, orderly.written⟩
      · rw [same]
        exact rests (u := w.dismiss .aborted)
          ⟨fun _ => ⟨fun _ => nofun, .inr (.inr (.inl rfl))⟩, id, id, fun _ => nofun, id⟩ rfl
  | stops leader isOver =>
      exact ⟨orderly.heard, fun _ => ending (by rw [leader]; rfl),
        fun _ => orderly.settled (.inl (by rw [leader]; rfl)),
        fun _ => orderly.recorded (.inl leader),
        fun _ => isOver⟩

/-- Whether the leader is set to end the pool or the writer out of its order. -/
def Deed.outOfOrder : Deed → Bool
  | .call .terminate | .call .close => true
  | _ => false

theorem orderly_engage {goal : Goal} (orderly : w.Orderly)
    (order : (Deed.call goal).outOfOrder = false) :
    (w.engage goal).1.Orderly := by
  cases goal with
  | refresh | round => exact orderly.goesOn (.of_writer rfl rfl id id) rfl fun _ => rfl
  | run => exact orderly.goesOn (.of_writer rfl rfl id id) rfl nofun
  | terminate | close => cases order

/-- As the leader turns to the end the pool is stopped, and nothing is said of workers, recorder and
writer yet. -/
theorem Orderly.turnsToEnd (orderly : w.Orderly) (turns : TurnsToEnd w w')
    (lifecycle : w'.lifecycle = .draining) : w'.Orderly := by
  obtain ⟨goal, leader⟩ := turns.leader
  have pool := turns.pool
  have running : w'.lifecycle ≠ .stopped := by
    rw [lifecycle]
    nofun
  refine ⟨?_, fun _ => by rw [pool], fun ended => ?_, fun ended => ?_,
    fun ended => absurd ended running⟩
  · rw [turns.writer, pool]
    exact orderly.heard
  · have past := ended.resolve_right running
    rw [leader] at past
    cases past
  · have closing := ended.resolve_right running
    rw [leader] at closing
    cases closing

/-- The step lemma: no deed ends somebody before those who work for him, unless the leader is called
out of its order. -/
theorem orderly_of_act? {d : Deed} (done : w.act? d = some (w', acts))
    (order : d.outOfOrder = false) (orderly : w.Orderly) : w'.Orderly := by
  cases other : d.byLeader with
  | false =>
      obtain ⟨kept, lifecycle⟩ := kept_of_others done other
      exact orderly.aside kept (aside_of_act? done other).leader lifecycle
  | true =>
      cases d with
      | call goal =>
          simp only [act?] at done
          split at done
          · obtain ⟨rfl, -⟩ := eq_of_done done
            exact orderly_engage orderly order
          · cases done
      | move t =>
          cases t with
          | leader =>
              cases ending : w.leader.isEnding with
              | true => exact orderly.closing (closing_of_moveLeader done ending)
              | false =>
                  rcases lead_of_rounds (lead_of_moveLeader done) ending with
                    rounds | ⟨turns, lifecycle⟩
                  · exact orderly.goesOn rounds.toRounds.kept rounds.going fun _ => rounds.lifecycle
                  · exact orderly.turnsToEnd turns lifecycle
          | worker | recorder | writer | canceller => cases other
      | tick | restage | arm => cases other

/-! ### What takes the writer down -/

/-- Nobody but the writer leads it on. -/
theorem phase_of_act? {d : Deed} (done : w.act? d = some (w', acts)) :
    w'.writer.phase = w.writer.phase ∨ ∃ written hears,
      w.writer.move w.now (w.stage.commits.headD default) hears = some (w'.writer, written) := by
  cases d with
  | call goal =>
      simp only [act?] at done
      split at done
      · obtain ⟨rfl, -⟩ := eq_of_done done
        cases goal with
        | refresh | round | run | terminate | close => exact .inl rfl
      · cases done
  | move t =>
      cases t with
      | leader =>
          refine .inl ?_
          cases ending : w.leader.isEnding with
          | true => exact (closing_of_moveLeader done ending).frame.2.2.2
          | false =>
              rcases lead_of_rounds (lead_of_moveLeader done) ending with rounds | ⟨turns, -⟩
              · rw [rounds.writer]
              · rw [turns.writer]
      | worker i => exact .inl (congrArg Writer.phase (labor_of_moveWorker done).frame.writer)
      | recorder =>
          refine .inl ?_
          cases recording_of_moveRecorder done with
          | records => rw [Writer.foldl_accept]
          | finishes => rfl
      | writer =>
          obtain ⟨⟨writer, written⟩, moved, same⟩ := Option.map_eq_some_iff.mp done
          cases same
          exact .inr ⟨written, _, moved⟩
      | canceller =>
          simp only [act?, move, moveCanceller] at done
          split at done
          · cases done
          · split at done
            · cases done
            · cases done
              exact .inl rfl
  | tick =>
      simp only [act?] at done
      split at done
      · cases done
        exact .inl rfl
      · cases done
  | restage | arm =>
      cases done
      exact .inl rfl

/-- If the writer has gone down, the datastore has taken it down. -/
theorem Run.fatal {past : List Moment} (run : Run w past w')
    (fatal : w'.writer.phase.isFatal = true) :
    w.writer.phase.isFatal = true ∨ ∃ s ∈ past, ∃ c ∈ s.before.stage.commits,
    c.outcome = .crash := by
  induction run with
  | rest => exact .inl fatal
  | @step w _ _ d acts past done _ ih =>
      rcases ih fatal with next | ⟨s, mem, crash⟩
      · rcases phase_of_act? done with same | ⟨written, hears, moved⟩
        · exact .inl (same ▸ next)
        · refine (Writer.crash_of_move moved next).imp_right fun crash => ?_
          refine ⟨_, List.mem_cons_self, w.stage.commits.headD default, ?_, crash⟩
          cases commits : w.stage.commits with
          | nil =>
              rw [commits] at crash
              cases crash
          | cons c rest => exact List.mem_cons_self
      · exact .inr ⟨s, List.mem_cons_of_mem _ mem, crash⟩

/-! ### Work for others -/

/-- Once the pool has been stopped, no service is taken. -/
theorem not_took {d : Deed} (done : w.act? d = some (w', acts)) (stopped : w.pool.stopped = true)
    (job : Monitored) : .took job ∉ acts := by
  intro told
  rcases of_isWork done told rfl with ⟨i, labor⟩ | recording | ⟨turn, written, rfl, -⟩
  · cases labor with
    | takes _ going => cases stopped.symm.trans going
    | seeks | leaves | pauses | drops => cases told
    | begins | concludes | repeats => cases List.mem_singleton.mp told
  · cases recording with
    | records => cases List.mem_singleton.mp told
    | finishes => cases told
  · obtain ⟨act, -, same⟩ := List.mem_map.mp told
    cases same

/-- The events of a verdict that is recorded are accepted, unless the writer is down. -/
theorem accepts_of_recorded {d : Deed} {job : Monitored} {v : Verdict}
    (done : w.act? d = some (w', acts)) (orderly : w.Orderly) (told : .recorded job v ∈ acts)
    (up : w.writer.phase ≠ .crashed) :
    w.writer.accepting = true ∧
      w'.writer.incoming = w.writer.incoming ++ (w.roster.record job v w.instant).2 := by
  rcases of_isWork done told rfl with ⟨i, labor⟩ | recording | ⟨turn, written, rfl, -⟩
  · cases labor with
    | seeks | leaves | pauses | drops => cases told
    | takes | begins | concludes | repeats => cases List.mem_singleton.mp told
  · cases recording with
    | records running =>
        cases List.mem_singleton.mp told
        have accepting : w.writer.accepting = true := by
          rcases orderly.heard.accepting with accepting | stopping | abandoned | down
          · exact accepting
          · exact absurd running (orderly.heard.after (.inl stopping))
          · exact absurd running (orderly.heard.after (.inr abandoned))
          · exact absurd down up
        refine ⟨accepting, ?_⟩
        simp [Writer.foldl_accept, accepting]
    | finishes => cases told
  · obtain ⟨act, -, same⟩ := List.mem_map.mp told
    cases same

/-- Once the leader has come to its end, no work is done. -/
theorem not_isWork {d : Deed} (done : w.act? d = some (w', acts)) (orderly : w.Orderly)
    (stopped : w.lifecycle = .stopped) : ∀ act ∈ acts, act.isWork = false := by
  intro act mem
  rw [← Bool.not_eq_true]
  intro work
  rcases of_isWork done mem work with ⟨i, labor⟩ | recording | ⟨turn, written, -, hears, moved⟩
  · have isOver := Pool.isOver_iff.mp (orderly.settled (.inr stopped)) i
    cases labor.not_isOver.symm.trans isOver
  · have gone := orderly.recorded (.inr stopped)
    cases recording with
    | records running | finishes running => exact gone running
  · have isOver := orderly.written stopped
    simp only [writerIsOver, Writer.isOver, Bool.or_eq_true, decide_eq_true_eq] at isOver
    rcases isOver with phase | phase | phase <;> simp [Writer.move, phase] at moved

/-! ### Whole runs -/

theorem Run.orderly {past : List Moment} (run : Run w past w')
    (order : ∀ m ∈ past, m.deed.outOfOrder = false) (orderly : w.Orderly) :
    w'.Orderly ∧ ∀ m ∈ past, m.before.Orderly ∧ m.before.act? m.deed = some (m.after, m.acts) := by
  induction run with
  | rest => exact ⟨orderly, fun _ mem => nomatch mem⟩
  | step done _ ih =>
      rw [List.forall_mem_cons] at order
      obtain ⟨last, each⟩ := ih order.2 (orderly_of_act? done order.1 orderly)
      exact ⟨last, List.forall_mem_cons.mpr ⟨⟨orderly, done⟩, each⟩⟩

structure Fresh (w : Watch) (size : Nat) : Prop where
  pool : w.pool = .ofSize size w.pool.confirmation
  writer : w.writer = (Writer.ofPolicy w.writer.policy).start
  leader : w.leader = .idle
  lifecycle : w.lifecycle = .initializing

/-- Nobody has come to an end before the program has begun. -/
theorem Fresh.orderly {size : Nat} (fresh : w.Fresh size) : w.Orderly := by
  have writer := fresh.writer
  refine ⟨⟨?_, .inl (by rw [writer]; rfl)⟩, fun ended => ?_, fun ended => ?_, fun ended => ?_,
    fun ended => ?_⟩
  · rw [writer]
    rintro (told | told) <;> cases told
  · rw [fresh.leader, fresh.lifecycle] at ended
    rcases ended with ended | ended <;> cases ended
  · rw [fresh.leader, fresh.lifecycle] at ended
    rcases ended with ended | ended <;> cases ended
  · rw [fresh.leader, fresh.lifecycle] at ended
    rcases ended with ended | ended <;> cases ended
  · rw [fresh.lifecycle] at ended
    cases ended

/-- In a program that ends the pool and the writer only at the end of its rounds, no service is
taken once the rounds have been left; the events of each verdict that is recorded are accepted by
the writer, unless the datastore has taken it down in an earlier commit; and once the program has
stopped, no check, no recording and no commit is under way, and none begins. -/
theorem ends_in_order {size : Nat} {past : List Moment} (fresh : w.Fresh size) (run : Run w past w')
    (order : ∀ m ∈ past, m.deed.outOfOrder = false) :
    (∀ m ∈ past, m.before.lifecycle.isLeft = true → ∀ job, .took job ∉ m.acts) ∧
    (∀ earlier m later, past = earlier ++ m :: later → ∀ job v, .recorded job v ∈ m.acts →
      m.before.writer.accepting = true ∧ m.after.writer.incoming =
        m.before.writer.incoming ++ (m.before.roster.record job v m.before.instant).2 ∨
      m.before.writer.phase = .crashed ∧
        ∃ s ∈ earlier, ∃ c ∈ s.before.stage.commits, c.outcome = .crash) ∧
    (w'.lifecycle = .stopped → (∀ i, (w'.pool.worker i).isOver = true) ∧
      w'.pool.recorder ≠ .running ∧ w'.writer.phase.inHand = []) ∧
    ∀ m ∈ past, m.before.lifecycle = .stopped → ∀ act ∈ m.acts, act.isWork = false := by
  obtain ⟨last, each⟩ := run.orderly order fresh.orderly
  refine ⟨?_, ?_, ?_, ?_⟩
  · intro m mem left
    obtain ⟨orderly, done⟩ := each m mem
    exact not_took done (orderly.stopped (.inr left))
  · rintro earlier m later rfl job v told
    obtain ⟨orderly, done⟩ := each m (List.mem_append_right _ List.mem_cons_self)
    by_cases down : m.before.writer.phase = .crashed
    · have started : w.writer.phase.isFatal = false := by
        rw [fresh.writer]
        rfl
      rcases run.split.1.fatal (by rw [down]; rfl) with first | crash
      · cases started.symm.trans first
      · exact .inr ⟨down, crash⟩
    · exact .inl (accepts_of_recorded done orderly told down)
  · intro stopped
    refine ⟨Pool.isOver_iff.mp (last.settled (.inr stopped)), last.recorded (.inr stopped), ?_⟩
    have isOver := last.written stopped
    simp only [writerIsOver, Writer.isOver, Bool.or_eq_true, decide_eq_true_eq] at isOver
    rcases isOver with phase | phase | phase <;> rw [phase] <;> rfl
  · intro m mem stopped
    obtain ⟨orderly, done⟩ := each m mem
    exact not_isWork done orderly stopped

/-! ### A check that ends after the cancellation -/

/-- One service is to be checked, and its check finds it down after a second. -/
def slowCheck : Watch :=
  .ofParts ⟨Checker.Registry.builtin.builder default, .ofMillis 60000, .ofMillis 5000⟩
    ⟨[sshService 1], true, [],
      Keyed.empty.insert 1 (.ofList [⟨1000, .verdict (.down "refused")⟩]), []⟩
    (.ofSize 1 default) (Writer.ofPolicy default).start

/-- The rounds are cancelled while the check is running. It is recorded, its event is stored, and
then the program stops. -/
def cancelledInCheck : List Deed :=
  [.call .run, .move (.worker 0), .move .writer, .move .leader, .move (.worker 0),
    .move (.worker 0),
    .arm 500, .tick 500, .move .canceller, .move .leader, .tick 1000, .move (.worker 0),
    .move (.worker 0), .move (.worker 0), .move .leader, .move .recorder, .move .recorder,
    .move .leader, .move .writer, .move .writer, .move .writer, .move .writer, .move .leader]

theorem cancelledInCheck_ends_in_order :
    ∃ past w', Run slowCheck past w' ∧ w'.lifecycle = .stopped ∧ w'.writer.stats.committed = 1 ∧
      (∃ m ∈ past, m.before.lifecycle.isLeft = true ∧ m.before.writer.accepting = true ∧
        ∃ job v, .recorded job v ∈ m.acts) ∧
      (∀ i, (w'.pool.worker i).isOver = true) ∧ w'.writer.phase.inHand = [] := by
  obtain ⟨past, w', run, order, stopped, committed, m, mem, left, up, job, -, told⟩ :=
    exists_run slowCheck cancelledInCheck
      (fun past w' => (∀ m ∈ past, m.deed.outOfOrder = false) ∧ w'.lifecycle = .stopped ∧
        w'.writer.stats.committed = 1 ∧ ∃ m ∈ past, m.before.lifecycle.isLeft = true ∧
          m.before.writer.phase ≠ .crashed ∧
          ∃ job ∈ w'.roster.list, .recorded job (.down "refused") ∈ m.acts)
      (by decide +kernel)
  have fresh : Fresh slowCheck 1 := ⟨rfl, rfl, rfl, rfl⟩
  obtain ⟨-, accepted, isOver, -⟩ := ends_in_order fresh run order
  obtain ⟨earlier, later, split⟩ := List.append_of_mem mem
  have accepting :=
    ((accepted earlier m later split job _ told).resolve_right fun down => up down.1).1
  exact ⟨past, w', run, stopped, committed, ⟨m, mem, left, accepting, job, _, told⟩,
    (isOver stopped).1, (isOver stopped).2.2⟩

end Watch

end Vigil
