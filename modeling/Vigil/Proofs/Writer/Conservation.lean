import Vigil.Proofs.Writer.Run

/-!
What becomes of the events that a writer accepts. Main statements: `Writer.Run.conserved`, at every
point of a run each accepted event has been stored, dropped or lost, or the writer holds it; and
`Writer.finished_accounts`, at the end the counters cover all events unless the limit of the flush
cut off a commit under way.
-/

namespace Vigil.Writer

/-! ### What an act does to an event -/

namespace Act

@[simp] def stored? : Act → Option Event
  | .stored e => some e
  | _ => none

@[simp] def dropped? : Act → Option Event
  | .dropped e => some e
  | _ => none

@[simp] theorem filterMap_stored?_dropped (l : List Event) :
    l.filterMap (stored? ∘ Act.dropped) = [] := by
  simp [List.filterMap_eq_nil_iff]

@[simp] theorem filterMap_dropped?_dropped (l : List Event) :
    l.filterMap (dropped? ∘ Act.dropped) = l := List.filterMap_some

end Act

namespace Moment

def stored (m : Moment) : List Event := m.acts.filterMap Act.stored?

def dropped (m : Moment) : List Event := m.acts.filterMap Act.dropped?

/-- The event whose commit is under way when the writer comes to its end. -/
def lost (m : Moment) : List Event := if m.after.isOver then m.before.phase.inHand else []

end Moment

namespace History

def accepted (past : History) : List Event := past.flatMap Moment.accepted

def stored (past : History) : List Event := past.flatMap Moment.stored

def dropped (past : History) : List Event := past.flatMap Moment.dropped

def lost (past : History) : List Event := past.flatMap Moment.lost

@[simp] theorem accepted_append (past : History) (m : Moment) :
    accepted (past ++ [m]) = past.accepted ++ m.accepted := by simp [accepted]

@[simp] theorem stored_append (past : History) (m : Moment) :
    stored (past ++ [m]) = past.stored ++ m.stored := by simp [stored]

@[simp] theorem dropped_append (past : History) (m : Moment) :
    dropped (past ++ [m]) = past.dropped ++ m.dropped := by simp [dropped]

@[simp] theorem lost_append (past : History) (m : Moment) :
    lost (past ++ [m]) = past.lost ++ m.lost := by simp [lost]

end History

/-! ### One deed -/

/-- A writer that has come to its end commits nothing. -/
theorem inHand_of_isOver {w : Writer} (ended : w.isOver = true) : w.phase.inHand = [] := by
  simp only [isOver, Bool.or_eq_true, decide_eq_true_eq] at ended
  rcases ended with h | h <;> rw [h] <;> rfl

/-- The events that a writer has and has not yet dealt with, in the order of their turns. -/
def holdings (w : Writer) : List Event := w.phase.inHand ++ w.pending ++ w.incoming

/-- In a step of its own, a writer stores, drops, loses or keeps what it holds. -/
theorem turn_conserves {w next : Writer} {now : Nat} {c : Commit} {acts : List Act}
    (turn : Turn w now c next acts) :
    let m : Moment := ⟨now, w, [], acts, next⟩
    w.holdings.Perm (m.stored ++ m.dropped ++ m.lost ++ next.holdings) := by
  intro m
  refine List.perm_iff_count.mpr fun a => ?_
  have taken : w.fitting.count a + w.spilling.count a = w.incoming.count a := by
    rw [← List.count_append, fitting_append_spilling]
  simp only [holdings, m, Moment.stored, Moment.dropped, Moment.lost, List.count_append]
  cases turn with
  | settleDown phase first | beginFirst phase first =>
      have first := congrArg (List.count a) first
      simp [phase, Phase.inHand, isOver, List.filterMap_cons, List.count_cons] at first ⊢
      omega
  | beginComing phase _ first | beginLast phase first =>
      simp [phase, Phase.inHand, isOver, first, List.filterMap_cons, List.count_cons]
      omega
  | turnToEnd phase =>
      have none : w.phase.inHand = [] := by rcases phase with h | ⟨due, h⟩ <;> rw [h] <;> rfl
      rw [none]
      split <;>
        · simp [Phase.inHand, isOver]
          omega
  | store phase | putBack phase | spill phase | storeLast phase | giveUpLast phase =>
      simp [phase, Phase.inHand, isOver, List.filterMap_cons]
      omega
  | cutShort phase =>
      simp [phase, Phase.inHand, isOver]
      omega
  | wake phase | finish phase => simp [phase, Phase.inHand, isOver]
  | goDown held =>
      rw [held]
      simp [Phase.inHand, isOver, List.filterMap_cons]
      omega

/-- What others do adds what is accepted to what is held. -/
theorem Aside.holdings {w next : Writer} {accepted : List Event} (aside : Aside w accepted next) :
    next.holdings = w.holdings ++ accepted := by
  simp [Writer.holdings, aside.inHand, aside.pending, aside.incoming]

theorem Aside.lost {w next : Writer} {accepted : List Event} (aside : Aside w accepted next)
    (now : Nat) : Moment.lost ⟨now, w, accepted, [], next⟩ = [] := by
  simp only [Moment.lost, ← aside.inHand]
  split
  · exact inHand_of_isOver ‹_›
  · rfl

/-- A deed leaves no event unaccounted for: what a writer holds and accepts is stored, dropped, lost
or still held afterwards. -/
theorem enact_conserves {w : Writer} {now : Nat} {d : Deed} {m : Moment}
    (done : w.enact now d = some m) :
    (w.holdings ++ m.accepted).Perm (m.stored ++ m.dropped ++ m.lost ++ m.after.holdings) := by
  rcases enact_cases done with ⟨c, next, acts, turn, rfl⟩ | ⟨accepted, next, aside, rfl⟩
  · simpa using turn_conserves turn
  · simp [Moment.stored, Moment.dropped, aside.lost, aside.holdings]

/-- A step counts what it stores and what it drops, unless it takes the writer down. -/
theorem turn_counts {w next : Writer} {now : Nat} {c : Commit} {acts : List Act}
    (turn : Turn w now c next acts) (up : next.phase ≠ .crashed) :
    let m : Moment := ⟨now, w, [], acts, next⟩
    next.stats.committed = w.stats.committed + m.stored.length ∧
      next.stats.dropped = w.stats.dropped + m.dropped.length := by
  cases turn <;> simp_all [Moment.stored, Moment.dropped, List.filterMap_cons]

theorem enact_counts {w : Writer} {now : Nat} {d : Deed} {m : Moment}
    (done : w.enact now d = some m) (up : m.after.phase ≠ .crashed) :
    m.after.stats.committed = w.stats.committed + m.stored.length ∧
      m.after.stats.dropped = w.stats.dropped + m.dropped.length := by
  rcases enact_cases done with ⟨c, next, acts, turn, rfl⟩ | ⟨accepted, next, aside, rfl⟩
  · exact turn_counts turn up
  · simp [Moment.stored, Moment.dropped, aside.stats]

/-! ### The end -/

/-- A writer that has come to its end stays there. -/
theorem enact_final {w : Writer} {now : Nat} {d : Deed} {m : Moment}
    (done : w.enact now d = some m) (ended : w.isOver = true) : m.after.phase = w.phase := by
  have idle := inHand_of_isOver ended
  simp only [isOver, Bool.or_eq_true, decide_eq_true_eq] at ended
  rcases enact_cases done with ⟨c, next, acts, turn, rfl⟩ | ⟨accepted, next, aside, rfl⟩
  · exfalso
    cases turn with
    | turnToEnd phase => rcases phase with h | ⟨_, h⟩ <;> simp [h] at ended
    | goDown held => simp [held] at idle
    | settleDown phase | beginFirst phase | beginComing phase | store phase | putBack phase
    | spill phase | wake phase | finish phase | beginLast phase | storeLast phase | giveUpLast phase
    | cutShort phase => simp [phase] at ended
  · rcases aside.phase with h | ⟨h, -⟩
    · exact h
    · simp [h] at ended

/-- What is not down has not been down before. -/
theorem up_before {w : Writer} {now : Nat} {d : Deed} {m : Moment} (done : w.enact now d = some m)
    (up : m.after.phase ≠ .crashed) : w.phase ≠ .crashed := by
  intro down
  exact up ((enact_final done (by simp [isOver, down])).trans down)

/-- The limit of the flush cuts off the commit of an event. -/
def Moment.CutsOff (m : Moment) (e : Event) : Prop :=
  ∃ due outcome limit, m.before.phase = .flushCommitting e due outcome limit ∧
    limit ≤ m.now ∧ m.now < due ∧ m.after.phase = .finished

/-- Short of a crash, only the limit of the flush loses an event. -/
theorem enact_lost {w : Writer} {now : Nat} {d : Deed} {m : Moment}
    (done : w.enact now d = some m) (up : m.after.phase ≠ .crashed) (e : Event) :
    e ∈ m.lost ↔ m.CutsOff e := by
  constructor
  · intro lost
    obtain ⟨ended, lost⟩ : m.after.isOver = true ∧ e ∈ m.before.phase.inHand := by
      simpa [Moment.lost] using lost
    rcases enact_cases done with ⟨c, next, acts, turn, rfl⟩ | ⟨accepted, next, aside, rfl⟩
    · cases turn with
      | @cutShort e' due limit outcome phase time early =>
          simp only [phase, Phase.inHand, List.mem_singleton] at lost
          exact ⟨due, outcome, limit, lost ▸ phase, time, early, rfl⟩
      | turnToEnd phase => rcases phase with h | ⟨_, h⟩ <;> simp [h, Phase.inHand] at lost
      | finish phase => simp [phase, Phase.inHand] at lost
      | goDown => exact absurd rfl up
      | _ => simp [isOver] at ended
    · rcases aside.phase with h | ⟨-, h⟩
      · rw [← h, inHand_of_isOver ended] at lost
        cases lost
      · simp [isOver, h] at ended
  · rintro ⟨due, outcome, limit, phase, -, -, after⟩
    simp [Moment.lost, isOver, after, phase, Phase.inHand]

/-! ### The shape of a writer -/

/-- The phases in which no event is accepted any more. -/
def Phase.isLast : Phase → Bool
  | .flushing _ | .flushCommitting .. | .finished => true
  | _ => false

/-- What the phase of a writer tells of its queues. -/
structure Sound (w : Writer) : Prop where
  waiting : w.phase = .waiting → w.pending = []
  last : w.phase.isLast = true → w.incoming = [] ∧ w.accepting = false
  finished : w.phase = .finished → w.pending = []

/-- No step of the writer puts events where its phase says there are none. -/
theorem turn_sound {w next : Writer} {now : Nat} {c : Commit} {acts : List Act}
    (turn : Turn w now c next acts) (sound : w.Sound) : next.Sound := by
  cases turn with
  | settleDown phase none => exact ⟨fun _ => none, by simp [Phase.isLast], by simp⟩
  | turnToEnd phase =>
      refine ⟨?_, fun _ => ⟨rfl, rfl⟩, ?_⟩
      · dsimp only
        split <;> simp
      · dsimp only
        split <;> simp_all
  | finish phase none =>
      have last := sound.last (by rw [phase]; rfl)
      exact ⟨by simp, fun _ => last, fun _ => none⟩
  | beginLast phase | storeLast phase | giveUpLast phase =>
      have last := sound.last (by rw [phase]; rfl)
      exact ⟨by simp, fun _ => last, by simp⟩
  | cutShort phase =>
      have last := sound.last (by rw [phase]; rfl)
      exact ⟨by simp, fun _ => last, fun _ => rfl⟩
  | _ => exact ⟨by simp, by simp [Phase.isLast], by simp⟩

/-- Nor does anything else that is done. -/
theorem enact_sound {w : Writer} {now : Nat} {d : Deed} {m : Moment}
    (done : w.enact now d = some m) (sound : w.Sound) : m.after.Sound := by
  rcases enact_cases done with ⟨c, next, acts, turn, rfl⟩ | ⟨accepted, next, aside, rfl⟩
  · exact turn_sound turn sound
  · rcases aside.phase with h | ⟨-, h⟩
    · refine ⟨?_, ?_, ?_⟩
      · simpa [h, aside.pending] using sound.waiting
      · intro last
        obtain ⟨none, closed⟩ := sound.last (h ▸ last)
        simp [aside.incoming, aside.accepting, none, closed, aside.closed closed]
      · simpa [h, aside.pending] using sound.finished
    · exact ⟨by simp [h], by simp [h, Phase.isLast], by simp [h]⟩

/-! ### Whole runs -/

variable {p : Policy} {past : History} {w : Writer}

theorem Run.sound (run : Run p past w) : w.Sound := by
  induction run with
  | start => exact ⟨by simp [ofPolicy], by simp [ofPolicy, Phase.isLast], by simp [ofPolicy]⟩
  | step _ _ done ih => exact enact_sound done ih

/-- At every point of a run, each accepted event has been stored, dropped or lost, or is held. -/
theorem Run.conserved (run : Run p past w) :
    past.accepted.Perm (past.stored ++ past.dropped ++ past.lost ++ w.holdings) := by
  induction run with
  | start => exact .refl _
  | @step past w now d m _ _ done ih =>
      refine List.perm_iff_count.mpr fun a => ?_
      have before := ih.count_eq a
      have here := (enact_conserves done).count_eq a
      simp only [History.accepted_append, History.stored_append, History.dropped_append,
        History.lost_append, List.count_append] at before here ⊢
      omega

/-- The counters tell how many events have been stored and dropped. -/
theorem Run.counted (run : Run p past w) (up : w.phase ≠ .crashed) :
    w.stats.committed = past.stored.length ∧ w.stats.dropped = past.dropped.length := by
  induction run with
  | start => exact ⟨rfl, rfl⟩
  | step _ _ done ih =>
      obtain ⟨stored, dropped⟩ := ih (up_before done up)
      obtain ⟨stored', dropped'⟩ := enact_counts done up
      simp [stored, dropped, stored', dropped']

/-- Short of a crash, events are lost exactly where the limit of the flush cuts off their commit. -/
theorem Run.mem_lost (run : Run p past w) (up : w.phase ≠ .crashed) (e : Event) :
    e ∈ past.lost ↔ ∃ m ∈ past, m.CutsOff e := by
  induction run with
  | start => simp [History.lost]
  | step _ _ done ih =>
      have before := ih (up_before done up)
      rw [History.lost_append, List.mem_append, before, enact_lost done up]
      simp [or_and_right, exists_or]

/-- A writer loses one event at most, and only as it comes to its end. -/
theorem Run.length_lost (run : Run p past w) :
    past.lost.length ≤ 1 ∧ (w.isOver = false → past.lost = []) := by
  induction run with
  | start => exact ⟨by simp [History.lost], fun _ => rfl⟩
  | @step past w now d m _ _ done ih =>
      obtain ⟨bound, none⟩ := ih
      have before := before_of_enact done
      rw [History.lost_append, Moment.lost, before]
      cases ended : w.isOver with
      | true =>
          have later : m.after.isOver = true := by
            simpa [isOver, enact_final done ended] using ended
          simpa [inHand_of_isOver ended, later] using bound
      | false =>
          rw [none ended]
          cases later : m.after.isOver with
          | true => simpa using w.phase.length_inHand
          | false => simp

/-- At the end the counters cover the accepted events, each exactly once, unless the limit of the
flush cut off the commit of one: that one has been neither stored nor counted as dropped. -/
theorem finished_accounts (run : Run p past w) (finished : w.phase = .finished) :
    past.accepted.Perm (past.stored ++ past.dropped ++ past.lost) ∧
      w.stats.committed = past.stored.length ∧ w.stats.dropped = past.dropped.length ∧
      (w.stats.committed + w.stats.dropped = past.accepted.length ↔
        ¬ ∃ m ∈ past, ∃ e, m.CutsOff e) ∧
      past.lost.length ≤ 1 ∧ ∀ e, e ∈ past.lost ↔ ∃ m ∈ past, m.CutsOff e := by
  have up : w.phase ≠ .crashed := by simp [finished]
  obtain ⟨none, -⟩ := run.sound.last (by rw [finished]; rfl)
  have held : w.holdings = [] := by
    simp [holdings, finished, Phase.inHand, none, run.sound.finished finished]
  have all : past.accepted.Perm (past.stored ++ past.dropped ++ past.lost) := by
    simpa [held] using run.conserved
  obtain ⟨stored, dropped⟩ := run.counted up
  refine ⟨all, stored, dropped, ?_, run.length_lost.1, run.mem_lost up⟩
  have total := all.length_eq
  simp only [List.length_append] at total
  constructor
  · rintro sum ⟨m, mem, e, cut⟩
    have lost := (run.mem_lost up e).mpr ⟨m, mem, cut⟩
    have := List.length_pos_of_mem lost
    omega
  · intro uncut
    have none : past.lost = [] := by
      refine List.eq_nil_iff_forall_not_mem.mpr fun e lost => uncut ?_
      obtain ⟨m, mem, cut⟩ := (run.mem_lost up e).mp lost
      exact ⟨m, mem, e, cut⟩
    simp [stored, dropped, total, none]

/-! ### A flush that is cut off -/

def briefEnd : Policy := ⟨.ofSecs 5, .ofSecs 1, none⟩

/-- An event fails, and its last commit takes longer than the end may. -/
def stalledEnd : List (Nat × Deed) :=
  [(0, .start), (0, .send default), (0, .proceed ⟨0, .refused⟩ true), (0, .proceed default true),
    (100, .stop),
    (100, .proceed default true), (100, .proceed ⟨5000, .stored⟩ true),
    (1100, .proceed default true)]

theorem stalledEnd_accounts :
    ∃ past w, Run briefEnd past w ∧ w.phase = .finished ∧
      past.accepted.Perm (past.stored ++ past.dropped ++ past.lost) ∧
      w.stats.committed = past.stored.length ∧ w.stats.dropped = past.dropped.length ∧
      (w.stats.committed + w.stats.dropped = past.accepted.length ↔
        ¬ ∃ m ∈ past, ∃ e, m.CutsOff e) ∧
      past.lost.length ≤ 1 ∧ ∀ e, e ∈ past.lost ↔ ∃ m ∈ past, m.CutsOff e :=
  have run := run_of_replay briefEnd stalledEnd (by decide) rfl
  ⟨_, _, run, rfl, finished_accounts run rfl⟩

/-- An event whose last commit is cut off is in none of the counters. -/
theorem cut_off_event_is_uncounted :
    ∃ past w, Run briefEnd past w ∧ w.phase = .finished ∧ past.accepted = [default] ∧
      past.stored = [] ∧ past.dropped = [] ∧
      w.stats.committed + w.stats.dropped ≠ past.accepted.length :=
  ⟨_, _, run_of_replay briefEnd stalledEnd (by decide) rfl, rfl, rfl, rfl, rfl, by decide⟩

end Vigil.Writer
