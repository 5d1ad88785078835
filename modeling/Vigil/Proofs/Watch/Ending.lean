import Vigil.Proofs.Pool.Labor
import Vigil.Proofs.Roster.Run
import Vigil.Proofs.Watch.Run

/-!
The steps of the leader, seen from the pool and the writer. Within its rounds the leader touches
nothing but the queue of the pool; when it turns to the end it stops the pool; and then it waits for
the workers, for the recorder and for the writer, one after the other.

Main statements: `Watch.lead_of_rounds` and `Watch.closing_of_moveLeader`, with all that has to hold
for the last steps; `Watch.of_isWork`, the leader does nothing for checks, verdicts and events
itself.
-/

namespace Vigil.Watch

/-- Whether the leader has turned to the end of the pool, or of the writer. -/
def Leader.isEnding : Leader → Bool
  | .draining .. | .aborting _ | .recording .. | .closing => true
  | _ => false

def Leader.isDraining : Leader → Bool
  | .draining .. => true
  | _ => false

/-- Whether it waits for workers that have been told to drop what they do. -/
def Leader.isAborting : Leader → Bool
  | .aborting _ => true
  | _ => false

def Leader.isRecording : Leader → Bool
  | .recording .. => true
  | _ => false

theorem Leader.not_isDraining {l : Leader} (rounds : l.isEnding = false) :
    l.isDraining = false := by
  cases l with
  | draining => cases rounds
  | idle | sleeping | fetching | pacing | waiting | aborting | recording | closing => rfl

variable {w w' : Watch} {acts : List Act} {goal : Goal}

/-! ### Rounds -/

/-- What a step leaves as it is that touches nothing but the queue of the pool. -/
structure Rounds (w w' : Watch) : Prop where
  policy : w'.policy = w.policy
  now : w'.now = w.now
  writer : w'.writer = w.writer
  pool : w'.pool = { w.pool with jobs := w'.pool.jobs }
  lives : w.roster.lives <+: w'.roster.lives
  sound : w.roster.Sound → w'.roster.Sound

theorem Rounds.trans {w'' : Watch} (first : Rounds w w') (second : Rounds w' w'') :
    Rounds w w'' where
  policy := second.policy.trans first.policy
  now := second.now.trans first.now
  writer := second.writer.trans first.writer
  pool := by rw [second.pool, first.pool]
  lives := first.lives.trans second.lives
  sound := second.sound ∘ first.sound

theorem rounds_refresh (w : Watch) : Rounds w w.refresh.1 :=
  ⟨rfl, rfl, rfl, rfl, Roster.lives_merge, Roster.Sound.merge⟩

theorem rounds_send (w : Watch) (goal : Goal) (began : Nat) (pause : Clock.Duration) (m : Monitored)
    (rest : List Monitored) : Rounds w (w.send goal began pause m rest).1 := by
  cases rest with
  | nil => exact ⟨rfl, rfl, rfl, rfl, List.prefix_rfl, id⟩
  | cons => exact ⟨rfl, rfl, rfl, rfl, List.prefix_rfl, id⟩

theorem rounds_dispatch (w : Watch) (goal : Goal) (began : Nat) :
    Rounds w (w.dispatch goal began).1 := by
  unfold dispatch
  split
  · exact ⟨rfl, rfl, rfl, rfl, List.prefix_rfl, id⟩
  · exact rounds_send w goal began _ _ _

structure GoesOn (w w' : Watch) : Prop extends Rounds w w' where
  going : w'.leader.isEnding = false
  lifecycle : w'.lifecycle = w.lifecycle

structure TurnsToEnd (w w' : Watch) : Prop where
  policy : w'.policy = w.policy
  now : w'.now = w.now
  writer : w'.writer = w.writer
  pool : w'.pool = { w.pool with stopped := true }
  lives : w.roster.lives <+: w'.roster.lives
  sound : w.roster.Sound → w'.roster.Sound
  leader : ∃ goal, w'.leader = .draining goal (w.now + w.policy.grace.millisUp)

theorem goesOn_send (w : Watch) (goal : Goal) (began : Nat) (pause : Clock.Duration) (m : Monitored)
    (rest : List Monitored) : GoesOn w (w.send goal began pause m rest).1 := by
  refine ⟨rounds_send w goal began pause m rest, ?_, ?_⟩
  · cases rest <;> rfl
  · cases rest <;> rfl

theorem goesOn_dispatch (w : Watch) (goal : Goal) (began : Nat) :
    GoesOn w (w.dispatch goal began).1 := by
  refine ⟨rounds_dispatch w goal began, ?_, ?_⟩
  · unfold dispatch
    split
    · rfl
    · exact (goesOn_send w goal began _ _ _).going
  · unfold dispatch
    split
    · rfl
    · exact (goesOn_send w goal began _ _ _).lifecycle

/-- At the end of a round the leader goes on, or it turns to the end. -/
theorem endRound_cases (w : Watch) (goal : Goal) (more : Bool) :
    GoesOn w (w.endRound goal more).1 ∨
      TurnsToEnd w (w.endRound goal more).1 ∧ (w.endRound goal more).1.lifecycle = .draining := by
  have still : Rounds w { w with leader := .idle } := ⟨rfl, rfl, rfl, rfl, List.prefix_rfl, id⟩
  cases goal with
  | run =>
      cases more with
      | true => exact .inl ⟨⟨rfl, rfl, rfl, rfl, List.prefix_rfl, id⟩, rfl, rfl⟩
      | false => exact .inr ⟨⟨rfl, rfl, rfl, rfl, List.prefix_rfl, id, .run, rfl⟩, rfl⟩
  | refresh | round | terminate | close => exact .inl ⟨still, rfl, rfl⟩

/-- Until it has turned to the end, the leader goes on with its rounds or turns to the end. -/
theorem lead_of_rounds (lead : Lead w w' acts) (going : w.leader.isEnding = false) :
    GoesOn w w' ∨ TurnsToEnd w w' ∧ w'.lifecycle = .draining := by
  have ended {more : Bool} {goal : Goal} : GoesOn w (w.refresh.1.endRound goal more).1 ∨
      TurnsToEnd w (w.refresh.1.endRound goal more).1 ∧
        (w.refresh.1.endRound goal more).1.lifecycle = .draining := by
    rcases endRound_cases w.refresh.1 goal more with rounds | ⟨turns, lifecycle⟩
    · exact .inl ⟨(rounds_refresh w).trans rounds.toRounds, rounds.going, rounds.lifecycle⟩
    · exact .inr ⟨⟨turns.policy, turns.now, turns.writer, turns.pool,
        (rounds_refresh w).lives.trans turns.lives, turns.sound ∘ (rounds_refresh w).sound,
        turns.leader⟩, lifecycle⟩
  cases lead with
  | awakes => exact .inl ⟨⟨rfl, rfl, rfl, rfl, List.prefix_rfl, id⟩, rfl, rfl⟩
  | refreshes =>
      have merged := rounds_refresh w
      exact .inl ⟨⟨rfl, rfl, rfl, rfl, merged.lives, merged.sound⟩, rfl, rfl⟩
  | @merges goal began =>
      have sent := goesOn_dispatch w.refresh.1 goal began
      exact .inl ⟨(rounds_refresh w).trans sent.toRounds, sent.going, sent.lifecycle⟩
  | stopsFetching => exact ended
  | sends => exact .inl (goesOn_send w _ _ _ _ _)
  | hasSent => exact .inl ⟨⟨rfl, rfl, rfl, rfl, List.prefix_rfl, id⟩, rfl, rfl⟩
  | stopsSending | ends | stopsWaiting => exact endRound_cases w _ _
  | drains leader | aborts leader | hasAborted leader | hasRecorded leader | dismisses leader
  | stops leader =>
      rw [leader] at going
      cases going

/-! ### The end -/

/-- The last steps of the leader one by one, and what each of them waits for. -/
inductive Closing (w : Watch) : Watch → List Act → Prop where
  | drains {goal : Goal} {due : Nat} (leader : w.leader = .draining goal due)
      (isOver : w.pool.isOver = true) :
      Closing w { w with leader := .recording goal (w.now + w.policy.grace.millisUp) } []
  | aborts {goal : Goal} {due : Nat} (leader : w.leader = .draining goal due)
      (going : w.pool.isOver = false) (come : due ≤ w.now) :
      Closing w { w with pool := w.pool.abort, leader := .aborting goal } []
  | hasAborted {goal : Goal} (leader : w.leader = .aborting goal) (isOver : w.pool.isOver = true) :
      Closing w { w with leader := .recording goal (w.now + w.policy.grace.millisUp) } []
  | hasRecorded {goal : Goal} {due : Nat} (leader : w.leader = .recording goal due)
      (gone : w.pool.recorder ≠ .running) : Closing w (w.endPool goal) []
  | dismisses {goal : Goal} {due : Nat} (leader : w.leader = .recording goal due)
      (running : w.pool.recorder = .running) (come : due ≤ w.now) :
      Closing w ((w.dismiss .aborted).endPool goal) []
  | stops (leader : w.leader = .closing) (isOver : w.writerIsOver = true) :
      Closing w { w with leader := .idle, lifecycle := .stopped } [.entered .stopped]

/-- Once it has turned to the end, the leader takes no other steps. -/
theorem closing_of_moveLeader (done : w.moveLeader = some (w', acts))
    (ending : w.leader.isEnding = true) : Closing w w' acts := by
  cases leader : w.leader with
  | idle | sleeping | fetching | pacing | waiting =>
      rw [leader] at ending
      cases ending
  | draining goal due =>
      simp only [moveLeader, leader] at done
      split at done
      · rename_i isOver
        cases done
        exact .drains leader isOver
      · rename_i going
        split at done
        · cases done
        · rename_i come
          cases done
          exact .aborts leader (Bool.eq_false_iff.mpr going) (Nat.le_of_not_lt come)
  | aborting goal =>
      simp only [moveLeader, leader] at done
      split at done
      · rename_i isOver
        cases done
        exact .hasAborted leader isOver
      · cases done
  | recording goal due =>
      simp only [moveLeader, leader] at done
      split at done
      · rename_i gone
        cases done
        exact .hasRecorded leader gone
      · rename_i running
        split at done
        · cases done
        · rename_i come
          cases done
          exact .dismisses leader (Decidable.not_not.mp running) (Nat.le_of_not_lt come)
  | closing =>
      simp only [moveLeader, leader] at done
      split at done
      · rename_i isOver
        cases done
        exact .stops leader isOver
      · cases done

/-- The end of the pool leaves the pool itself as it is. -/
theorem endPool_cases (w : Watch) (goal : Goal) :
    w.endPool goal = w.close ∨ w.endPool goal = { w with leader := .idle } := by
  cases goal with
  | run => exact .inl rfl
  | refresh | round | terminate | close => exact .inr rfl

/-- At the end the leader neither waits for the workers anew, nor has the pool, the recorder or the
writer go on. -/
theorem Closing.frame (closing : Closing w w' acts) :
    w'.leader.isDraining = false ∧ w'.pool.stopped = w.pool.stopped ∧
      (w.pool.recorder ≠ .running → w'.pool.recorder ≠ .running) ∧
      w'.writer.phase = w.writer.phase := by
  have ended (u : Watch) (goal : Goal) :
      (u.endPool goal).leader.isDraining = false ∧ (u.endPool goal).pool = u.pool ∧
        (u.endPool goal).writer.phase = u.writer.phase := by
    rcases endPool_cases u goal with same | same
    · rw [same]
      exact ⟨rfl, rfl, rfl⟩
    · rw [same]
      exact ⟨rfl, rfl, rfl⟩
  cases closing with
  | drains | aborts | hasAborted | stops => exact ⟨rfl, rfl, id, rfl⟩
  | @hasRecorded goal =>
      obtain ⟨leader, pool, phase⟩ := ended w goal
      rw [pool]
      exact ⟨leader, rfl, id, phase⟩
  | @dismisses goal =>
      obtain ⟨leader, pool, phase⟩ := ended (w.dismiss .aborted) goal
      rw [pool]
      exact ⟨leader, rfl, fun _ => nofun, phase⟩

/-! ### Who does what -/

/-- Whether something is done for checks, verdicts or events. -/
def Act.isWork : Act → Bool
  | .took _ | .checked _ | .concluded .. | .recorded .. | .wrote _ => true
  | _ => false

theorem byLeader_endRound (w : Watch) (goal : Goal) (more : Bool) :
    ∀ act ∈ (w.endRound goal more).2, act.byLeader = true := by
  cases goal with
  | run =>
      cases more with
      | true => simp [endRound, fetch, Act.byLeader]
      | false => simp [endRound, Act.byLeader]
  | refresh | round | terminate | close => simp [endRound, Act.byLeader]

theorem byLeader_dispatch (w : Watch) (goal : Goal) (began : Nat) :
    ∀ act ∈ (w.dispatch goal began).2, act.byLeader = true := by
  unfold dispatch
  split
  · exact fun act mem => nomatch mem
  · exact List.forall_mem_singleton.mpr rfl

theorem Lead.byLeader (lead : Lead w w' acts) : ∀ act ∈ acts, act.byLeader = true := by
  have merged : ∀ act ∈ w.refresh.2, act.byLeader = true := List.forall_mem_singleton.mpr rfl
  cases lead with
  | awakes | hasSent | drains | aborts | hasAborted | hasRecorded | dismisses =>
      exact fun act mem => nomatch mem
  | refreshes => exact merged
  | merges => exact List.forall_mem_append.mpr ⟨merged, byLeader_dispatch _ _ _⟩
  | stopsFetching => exact List.forall_mem_append.mpr ⟨merged, byLeader_endRound _ _ _⟩
  | sends => exact List.forall_mem_singleton.mpr rfl
  | stopsSending | ends | stopsWaiting => exact byLeader_endRound _ _ _
  | stops => exact List.forall_mem_singleton.mpr rfl

theorem byLeader_engage (w : Watch) (goal : Goal) :
    ∀ act ∈ (w.engage goal).2, act.byLeader = true := by
  cases goal with
  | refresh | round | run | terminate | close => simp [engage, fetch, Act.byLeader]

/-- Work for checks, verdicts and events is done by workers, the recorder and the writer. -/
theorem of_isWork {d : Deed} (done : w.act? d = some (w', acts)) {act : Act} (mem : act ∈ acts)
    (work : act.isWork = true) :
    (∃ i, Labor w i w' acts) ∨ Recording w w' acts ∨
      ∃ turn written, acts = written.map .wrote ∧
        ∃ hears, w.writer.move w.now (w.stage.commits.headD default) hears =
          some (turn, written) := by
  have others (mine : ∀ act ∈ acts, act.byLeader = true) : act.isWork = false := by
    have byLeader := mine act mem
    cases act with
    | took | checked | concluded | recorded | wrote => cases byLeader
    | fetched | merged | sent | rounded | cancelled | entered => rfl
  cases d with
  | call goal =>
      simp only [act?] at done
      split at done
      · obtain ⟨-, rfl⟩ := eq_of_done done
        rw [others (byLeader_engage w goal)] at work
        cases work
      · cases done
  | move t =>
      cases t with
      | leader =>
          rw [others (lead_of_moveLeader done).byLeader] at work
          cases work
      | worker i => exact .inl ⟨i, labor_of_moveWorker done⟩
      | recorder => exact .inr (.inl (recording_of_moveRecorder done))
      | writer =>
          obtain ⟨⟨turn, written⟩, moved, same⟩ := Option.map_eq_some_iff.mp done
          cases same
          exact .inr (.inr ⟨turn, written, rfl, _, moved⟩)
      | canceller =>
          simp only [act?, move, moveCanceller] at done
          split at done
          · cases done
          · split at done
            · cases done
            · cases done
              cases List.mem_singleton.mp mem
              cases work
  | tick =>
      simp only [act?] at done
      split at done
      · cases done
        cases mem
      · cases done
  | restage | arm =>
      cases done
      cases mem

end Vigil.Watch
