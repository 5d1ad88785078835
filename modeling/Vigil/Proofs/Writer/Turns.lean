import Vigil.Proofs.Writer.Marks
import Vigil.Proofs.Writer.Stopping

/-!
The turns that events have before the end. A failed event goes behind all that wait, and there is
always room for it: the place that it has left is given to no newcomer, since newcomers are only
looked at between two commits.

Main definitions: `Writer.Moment.Serves`, what a step before the end may do to the queue;
`Writer.History.Fair`, no event that has been let in is dropped, and each one that waits has its
turn before another one is tried again. Main statement: `Writer.fair_before_end`, that is so in
every run.
-/

namespace Vigil.Writer

/-- The phases before the end. -/
def Phase.isMain : Phase → Bool
  | .unstarted | .ready | .waiting | .committing .. | .resting _ => true
  | .flushing _ | .flushCommitting .. | .finished | .crashed => false

theorem Phase.isMain_rename (f : Event → Event) (phase : Phase) :
    (phase.rename f).isMain = phase.isMain := by
  cases phase <;> rfl

theorem isOver_of_isMain {w : Writer} (main : w.phase.isMain = true) : w.isOver = false := by
  cases ended : w.isOver with
  | false => rfl
  | true =>
      simp only [isOver, Bool.or_eq_true, decide_eq_true_eq] at ended
      rcases ended with ended | ended <;> rw [ended] at main <;> cases main

def HasRoom (w : Writer) : Prop :=
  ∀ cap ∈ w.policy.maxPending, w.pending.length + w.phase.inHand.length ≤ cap

/-! ### One deed -/

section Deeds

variable {w next : Writer} {now : Nat} {c : Commit} {acts : List Act} {d : Deed} {m : Moment}

/-- The end has no way back. -/
theorem isMain_before (done : w.enact now d = some m) (main : m.after.phase.isMain = true) :
    w.phase.isMain = true := by
  rcases enact_cases done with ⟨c, next, acts, turn, rfl⟩ | ⟨accepted, next, aside, rfl⟩
  · cases turn with
    | settleDown phase | beginFirst phase | beginComing phase | store phase | putBack phase
    | spill phase | wake phase =>
        rw [phase]
        rfl
    | turnToEnd =>
        dsimp only at main
        split at main
        · cases main
        · cases main
    | finish | beginLast | storeLast | giveUpLast | cutShort | goDown => cases main
  · rcases aside.phase with same | ⟨unstarted, -⟩
    · exact (congrArg Phase.isMain same).symm.trans main
    · rw [unstarted]
      rfl

theorem length_fitting_le {cap : Nat} (limited : w.policy.maxPending = some cap) :
    w.fitting.length ≤ cap - w.pending.length := by
  rw [fitting, limited]
  exact List.length_take_le _ _

/-- Looking at newcomers fills the queue at most. -/
theorem length_pending_append_fitting_le {cap : Nat} (limited : w.policy.maxPending = some cap)
    (room : w.pending.length ≤ cap) : (w.pending ++ w.fitting).length ≤ cap := by
  have few := length_fitting_le limited
  rw [List.length_append]
  omega

/-- Before the end newcomers never take up the room of the event in hand. -/
theorem Turn.hasRoom (turn : Turn w now c next acts) (sound : w.Sound)
    (capacity : w.policy.maxPending ≠ some 0) (room : w.HasRoom)
    (main : next.phase.isMain = true) : next.HasRoom := by
  intro cap limited
  have limited : w.policy.maxPending = some cap := turn.keeps.1 ▸ limited
  have room := room cap limited
  have full : (w.pending ++ w.fitting).length ≤ cap :=
    length_pending_append_fitting_le limited (Nat.le_of_add_right_le room)
  cases turn with
  | settleDown => exact full
  | beginFirst phase first =>
      rw [first] at full
      exact full
  | beginComing phase going first =>
      have none := sound.waiting phase
      have positive : cap ≠ 0 := by
        rintro rfl
        exact capacity limited
      simp only [none, Phase.inHand, List.length_nil, List.length_singleton]
      omega
  | store phase | wake phase => exact Nat.le_trans (Nat.le_add_right _ _) room
  | putBack phase => simpa [phase, Phase.inHand] using room
  | spill phase => exact Nat.le_of_add_right_le room
  | turnToEnd =>
      dsimp only at main
      split at main
      · cases main
      · cases main
  | finish | beginLast | storeLast | giveUpLast | cutShort | goDown => cases main

theorem hasRoom_of_enact (done : w.enact now d = some m) (sound : w.Sound)
    (capacity : w.policy.maxPending ≠ some 0) (room : w.HasRoom)
    (main : m.after.phase.isMain = true) : m.after.HasRoom := by
  rcases enact_cases done with ⟨c, next, acts, turn, rfl⟩ | ⟨accepted, next, aside, rfl⟩
  · exact turn.hasRoom sound capacity room main
  · intro cap limited
    rw [aside.pending, aside.inHand]
    exact room cap (aside.policy ▸ limited)

/-- What a step before the end may do to the event in hand and to the queue. -/
inductive Moment.Serves (m : Moment) : Prop where
  /-- The hand is as it was. If it is free, newcomers may come to the end of the queue. -/
  | rest (more : List Event) (hand : m.after.phase.inHand = m.before.phase.inHand)
      (queue : m.after.pending = m.before.pending ++ more)
      (busy : m.before.phase.inHand ≠ [] → more = [])
      (begun : m.begun = []) (stored : m.stored = []) (refused : m.refused = [])
  /-- The next event is taken from the front of the queue. -/
  | take (e : Event) (more : List Event) (free : m.before.phase.inHand = [])
      (hand : m.after.phase.inHand = [e])
      (queue : m.before.pending ++ more = e :: m.after.pending)
      (begun : m.begun = [e]) (stored : m.stored = []) (refused : m.refused = [])
  | store {e : Event} (held : m.before.phase.inHand = [e]) (free : m.after.phase.inHand = [])
      (queue : m.after.pending = m.before.pending)
      (begun : m.begun = []) (stored : m.stored = [e]) (refused : m.refused = [])
  /-- The event has failed, and goes behind those that wait. -/
  | putBack {e : Event} (held : m.before.phase.inHand = [e]) (free : m.after.phase.inHand = [])
      (queue : m.after.pending = m.before.pending ++ [e])
      (begun : m.begun = []) (stored : m.stored = []) (refused : m.refused = [e])

/-- A writer with room for the event in hand drops none but newcomers, and serves the queue. -/
theorem Turn.serves (turn : Turn w now c next acts) (sound : w.Sound) (room : w.HasRoom)
    (main : next.phase.isMain = true) :
    let m : Moment := ⟨now, w, [], acts, next⟩
    m.Serves ∧ ∀ e ∈ m.dropped, e ∈ w.incoming := by
  intro m
  -- what lacks room is new
  have newcomers : ∀ e ∈ w.spilling, e ∈ w.incoming := by
    intro e mem
    rw [← fitting_append_spilling w]
    exact List.mem_append_right _ mem
  cases turn with
  | settleDown phase none =>
      have idle : w.phase.inHand = [] := by rw [phase]; rfl
      have dropped : m.dropped = w.spilling := by simp [m, Moment.dropped]
      refine ⟨.rest w.fitting idle.symm rfl (fun busy => absurd idle busy) ?_ ?_ ?_,
        dropped ▸ newcomers⟩
      · simp [m, Moment.begun]
      · simp [m, Moment.stored]
      · simp [m, Moment.refused]
  | beginFirst phase first =>
      have idle : w.phase.inHand = [] := by rw [phase]; rfl
      have dropped : m.dropped = w.spilling := by simp [m, Moment.dropped]
      refine ⟨.take _ w.fitting idle rfl first ?_ ?_ ?_, dropped ▸ newcomers⟩
      · simp [m, Moment.begun]
      · simp [m, Moment.stored]
      · simp [m, Moment.refused]
  | @beginComing e rest phase going first =>
      have idle : w.phase.inHand = [] := by rw [phase]; rfl
      have none := sound.waiting phase
      refine ⟨.take e [e] idle rfl ?_ rfl rfl rfl, fun e' gone => ?_⟩
      · simp [m, none]
      · cases gone
  | store phase =>
      refine ⟨.store ?_ rfl rfl rfl rfl rfl, fun e gone => ?_⟩
      · exact congrArg Phase.inHand phase
      · cases gone
  | putBack phase =>
      refine ⟨.putBack ?_ rfl rfl rfl rfl rfl, fun e gone => ?_⟩
      · exact congrArg Phase.inHand phase
      · cases gone
  | spill phase time full =>
      -- the place that the event has left is still free
      exfalso
      cases limited : w.policy.maxPending with
      | none => simp [isFull, limited] at full
      | some cap =>
          have some := room cap limited
          simp [isFull, limited, phase, Phase.inHand] at full some
          omega
  | wake phase =>
      refine ⟨.rest [] ?_ ?_ (fun _ => rfl) rfl rfl rfl, fun e gone => ?_⟩
      · exact (congrArg Phase.inHand phase).symm
      · exact (List.append_nil _).symm
      · cases gone
  | turnToEnd =>
      dsimp only at main
      split at main
      · cases main
      · cases main
  | finish | beginLast | storeLast | giveUpLast | cutShort | goDown => cases main

theorem serves_of_enact (done : w.enact now d = some m) (sound : w.Sound) (room : w.HasRoom)
    (main : m.after.phase.isMain = true) :
    m.Serves ∧ ∀ e ∈ m.dropped, e ∈ m.before.incoming := by
  rcases enact_cases done with ⟨c, next, acts, turn, rfl⟩ | ⟨accepted, next, aside, rfl⟩
  · exact turn.serves sound room main
  · refine ⟨.rest [] aside.inHand ?_ (fun _ => rfl) rfl rfl rfl, fun e gone => ?_⟩
    · exact aside.pending.trans (List.append_nil _).symm
    · cases gone

end Deeds

/-- An event that waits or is in hand does so afterwards, or has been stored. -/
theorem Moment.Serves.keeps {m : Moment} {e : Event} (serves : m.Serves)
    (held : e ∈ m.before.pending ∨ e ∈ m.before.phase.inHand ∨ e ∈ m.begun) :
    e ∈ m.after.pending ∨ e ∈ m.after.phase.inHand ∨ e ∈ m.stored := by
  cases serves with
  | rest more hand queue busy begun =>
      rw [queue, hand]
      rcases held with held | held | held
      · exact .inl (List.mem_append_left _ held)
      · exact .inr (.inl held)
      · simp [begun] at held
  | take e' more free hand queue begun =>
      rw [hand]
      rcases held with held | held | held
      · have mem : e ∈ e' :: m.after.pending := queue ▸ List.mem_append_left _ held
        rcases List.mem_cons.mp mem with rfl | mem
        · exact .inr (.inl List.mem_cons_self)
        · exact .inl mem
      · simp [free] at held
      · exact .inr (.inl (begun ▸ held))
  | store here free queue begun stored =>
      rw [queue, stored]
      rcases held with held | held | held
      · exact .inl held
      · exact .inr (.inr (here ▸ held))
      · simp [begun] at held
  | putBack here free queue begun =>
      rw [queue]
      rcases held with held | held | held
      · exact .inl (List.mem_append_left _ held)
      · exact .inl (List.mem_append_right _ (here ▸ held))
      · simp [begun] at held

/-- A commit begins with empty hands, on the first event of the queue or, if none waits, on one that
comes in. -/
theorem Moment.Serves.hand_of_begun {m : Moment} {e : Event} (serves : m.Serves)
    (begins : e ∈ m.begun) :
    m.before.phase.inHand = [] ∧ m.after.phase.inHand = [e] ∧
      ∃ more, m.before.pending ++ more = e :: m.after.pending := by
  cases serves with
  | take e' more free hand queue begun =>
      rw [begun, List.mem_singleton] at begins
      subst begins
      exact ⟨free, hand, more, queue⟩
  | rest _ _ _ _ begun | store _ _ _ begun | putBack _ _ _ begun => simp [begun] at begins

/-! ### Whole runs -/

def History.begun (past : History) : List Event := past.flatMap Moment.begun

@[simp] theorem History.begun_append (past : History) (m : Moment) :
    begun (past ++ [m]) = past.begun ++ m.begun := by simp [begun]

/-- Where an event is, and what has been begun, since its commit was begun and `queue` waited. -/
inductive InTurn (e : Event) (queue : List Event) (later : History) (w : Writer) : Prop where
  | held (hand : w.phase.inHand = [e]) (begun : later.begun = []) (same : w.pending = queue)
  | stored (done : e ∈ later.stored)
  /-- It has its turn behind those that waited then. -/
  | waits (more : List Event) (turns : later.begun ++ w.pending = queue ++ e :: more)

/-- An event that is put back waits behind those that waited when its commit was begun, and each of
them is begun before it. -/
theorem InTurn.step {e : Event} {queue : List Event} {later : History} {m : Moment}
    (inTurn : InTurn e queue later m.before) (serves : m.Serves) :
    InTurn e queue (later ++ [m]) m.after := by
  cases inTurn with
  | stored done =>
      refine .stored ?_
      rw [History.stored_append]
      exact List.mem_append_left _ done
  | held hand begun same =>
      cases serves with
      | rest more hand' queue' busy none =>
          have busy := busy (by simp [hand])
          exact .held (hand'.trans hand) (by simp [begun, none]) (by simp [queue', busy, same])
      | take _ _ free => cases hand.symm.trans free
      | store held free queue' none stored =>
          cases hand.symm.trans held
          exact .stored (by simp [stored])
      | putBack held free queue' none =>
          cases hand.symm.trans held
          exact .waits [] (by simp [begun, none, queue', same])
  | waits more turns =>
      cases serves with
      | rest new hand queue' busy none =>
          refine .waits (more ++ new) ?_
          rw [History.begun_append, none, List.append_nil, queue', ← List.append_assoc, turns,
            List.append_assoc, List.cons_append]
      | take e' new free hand queue' begun =>
          refine .waits (more ++ new) ?_
          rw [History.begun_append, begun, List.append_assoc, List.singleton_append, ← queue',
            ← List.append_assoc, turns, List.append_assoc, List.cons_append]
      | store held free queue' none => exact .waits more (by simp [none, queue', turns])
      | @putBack e' held free queue' none =>
          refine .waits (more ++ [e']) ?_
          rw [History.begun_append, none, List.append_nil, queue', ← List.append_assoc, turns,
            List.append_assoc, List.cons_append]

section Runs

variable {p : Policy} {past : History} {w : Writer}

theorem Run.hasRoom (run : Run p past w) (capacity : p.maxPending ≠ some 0)
    (main : w.phase.isMain = true) : w.HasRoom := by
  induction run with
  | start =>
      intro cap _
      simp [ofPolicy, Phase.inHand]
  | step run _ done ih =>
      have before := ih (isMain_before done main)
      exact hasRoom_of_enact done run.sound (run.policy ▸ capacity) before main

/-- Before the end, every step serves the queue and drops none but newcomers. -/
theorem Run.serves (run : Run p past w) (capacity : p.maxPending ≠ some 0)
    (main : w.phase.isMain = true) :
    ∀ m ∈ past, m.before.phase.isMain = true ∧ m.after.phase.isMain = true ∧ m.Serves ∧
      ∀ e ∈ m.dropped, e ∈ m.before.incoming := by
  induction run with
  | start => exact fun m mem => absurd mem List.not_mem_nil
  | @step past w now d last run _ done ih =>
      have before := isMain_before done main
      intro m mem
      rcases List.mem_append.mp mem with mem | mem
      · exact ih before m mem
      · cases List.mem_singleton.mp mem
        have here := serves_of_enact done run.sound (run.hasRoom capacity before) main
        exact ⟨before_of_enact done ▸ before, main, here⟩

/-- What has once waited or been begun waits, is in hand or has been stored. -/
theorem Run.kept (run : Run p past w) (capacity : p.maxPending ≠ some 0)
    (main : w.phase.isMain = true) {m : Moment} (mem : m ∈ past) {e : Event}
    (held : e ∈ m.before.pending ∨ e ∈ m.after.pending ∨ e ∈ m.begun) :
    e ∈ w.pending ∨ e ∈ w.phase.inHand ∨ e ∈ past.stored := by
  induction run with
  | start => exact absurd mem List.not_mem_nil
  | @step past w now d last run later done ih =>
      obtain ⟨-, -, serves, -⟩ := (run.step later done).serves capacity main last (by simp)
      have same := before_of_enact done
      rw [History.stored_append, List.mem_append]
      rcases List.mem_append.mp mem with mem | mem
      · rcases ih (isMain_before done main) mem with waits | hand | stored
        · rcases serves.keeps (.inl (same ▸ waits)) with h | h | h <;> simp [h]
        · rcases serves.keeps (.inr (.inl (same ▸ hand))) with h | h | h <;> simp [h]
        · exact .inr (.inr (.inl stored))
      · cases List.mem_singleton.mp mem
        rcases held with before | after | begun
        · rcases serves.keeps (.inl before) with h | h | h <;> simp [h]
        · exact .inl after
        · rcases serves.keeps (.inr (.inr begun)) with h | h | h <;> simp [h]

/-- An event whose commit has begun is in hand, stored, or has its turn behind those that waited
then. -/
theorem Run.inTurn (run : Run p past w) (capacity : p.maxPending ≠ some 0)
    (main : w.phase.isMain = true) {earlier later : History} {m : Moment} {e : Event}
    (split : past = earlier ++ m :: later) (begins : e ∈ m.begun) :
    InTurn e m.after.pending later w := by
  induction run generalizing later with
  | start => exact absurd split (by simp)
  | @step past w now d last run after done ih =>
      obtain ⟨-, -, serves, -⟩ := (run.step after done).serves capacity main last (by simp)
      rcases List.eq_nil_or_concat' later with rfl | ⟨later, last', rfl⟩
      · obtain ⟨rfl, same⟩ := List.append_inj' split rfl
        cases same
        exact .held (serves.hand_of_begun begins).2.1 rfl rfl
      · rw [← List.cons_append, ← List.append_assoc] at split
        obtain ⟨before, same⟩ := List.append_inj' split rfl
        cases same
        have known := ih (isMain_before done main) before
        rw [← before_of_enact done] at known
        exact known.step serves

/-- If events are different, each one is in one place. -/
theorem Run.apart (run : Run p past w) (distinct : past.accepted.Nodup) :
    w.pending.Nodup ∧ (∀ e ∈ w.phase.inHand, e ∉ w.pending ∧ e ∉ past.stored) ∧
      ∀ e ∈ past.dropped, ¬ (e ∈ w.pending ∨ e ∈ w.phase.inHand ∨ e ∈ past.stored) := by
  have nodup := run.conserved.nodup_iff.mp distinct
  simp only [holdings, List.nodup_append, List.mem_append] at nodup
  grind

/-- Newcomers may be dropped, but no event that has been let in is; and each one has its turn. -/
structure History.Fair (past : History) : Prop where
  /-- What is dropped comes in at that moment, and never waits or is begun. -/
  newcomers : ∀ m ∈ past, ∀ e ∈ m.dropped, e ∈ m.before.incoming ∧
    ∀ m' ∈ past, e ∉ m'.before.pending ∧ e ∉ m'.after.pending ∧ e ∉ m'.begun
  /-- What fails goes behind those that wait. -/
  rescheduled : ∀ m ∈ past, ∀ e ∈ m.refused, m.after.pending = m.before.pending ++ [e]
  /-- Until an event is tried again, those that waited are begun, each once and no other. -/
  turns : ∀ (earlier : History) (m : Moment) (between : History) (m' : Moment) (later : History)
    (e : Event), past = earlier ++ m :: between ++ m' :: later → e ∈ m.begun → e ∈ m'.begun →
      e ∉ between.begun →
    between.begun = m.after.pending ∧ m.after.pending.Nodup

/-- Lists that agree up to an event that neither has before are the same up to there. -/
theorem eq_of_append_cons {e : Event} {l l' rest rest' : List Event} (new : e ∉ l) (new' : e ∉ l')
    (same : l ++ e :: rest = l' ++ e :: rest') : l = l' := by
  rcases List.append_eq_append_iff.mp same with ⟨more, split, tail⟩ | ⟨more, split, tail⟩
  · cases more with
    | nil => exact (split.trans (List.append_nil l)).symm
    | cons first more =>
        cases tail
        exact absurd (split ▸ List.mem_append_right _ List.mem_cons_self) new'
  · cases more with
    | nil => exact split.trans (List.append_nil l')
    | cons first more =>
        cases tail
        exact absurd (split ▸ List.mem_append_right _ List.mem_cons_self) new

/-- The run lemma, by induction from what each step serves. -/
theorem Run.fair (run : Run p past w) (capacity : p.maxPending ≠ some 0)
    (main : w.phase.isMain = true) (distinct : past.accepted.Nodup) : past.Fair where
  newcomers := by
    intro m mem e gone
    refine ⟨(run.serves capacity main m mem).2.2.2 e gone, fun m' mem' => ?_⟩
    have dropped : e ∈ past.dropped := List.mem_flatMap.mpr ⟨m, mem, gone⟩
    have outside (held : e ∈ m'.before.pending ∨ e ∈ m'.after.pending ∨ e ∈ m'.begun) : False :=
      (run.apart distinct).2.2 e dropped (run.kept capacity main mem' held)
    exact ⟨fun h => outside (.inl h), fun h => outside (.inr (.inl h)),
      fun h => outside (.inr (.inr h))⟩
  rescheduled := by
    intro m mem e fails
    obtain ⟨-, -, serves, -⟩ := run.serves capacity main m mem
    cases serves with
    | putBack held free queue begun stored refused =>
        rw [refused, List.mem_singleton] at fails
        exact fails ▸ queue
    | rest _ _ _ _ _ _ refused | take _ _ _ _ _ _ _ refused | store _ _ _ _ _ refused =>
        simp [refused] at fails
  turns := by
    intro earlier m between m' later e split begins again first
    have split' : past = earlier ++ m :: (between ++ m' :: later) := by
      rw [split, List.append_assoc, List.cons_append]
    have mem' : m' ∈ past := split ▸ List.mem_append_right _ List.mem_cons_self
    -- where the event is when its commit begins, and when it begins again
    have serves := (run.serves capacity main m (split' ▸ by simp)).2.2.1
    obtain ⟨main', -, serves', -⟩ := run.serves capacity main m' mem'
    have hand := (serves.hand_of_begun begins).2.1
    obtain ⟨free', hand', more', turn'⟩ := serves'.hand_of_begun again
    -- the event is neither among those that wait nor stored when its commit begins
    have distinct' {earlier later : History} {m : Moment} (split : past = earlier ++ m :: later) :
        (History.accepted (earlier ++ [m])).Nodup := by
      rw [split, List.append_cons, History.accepted, List.flatMap_append] at distinct
      exact (List.nodup_append.mp distinct).1
    obtain ⟨alone, apart, -⟩ := (run.upto split').apart (distinct' split')
    obtain ⟨-, apart', -⟩ := (run.upto split).apart (distinct' split)
    have absent := (apart e (hand ▸ List.mem_cons_self)).1
    have unstored := (apart' e (hand' ▸ List.mem_cons_self)).2
    refine ⟨?_, alone⟩
    cases (run.here split).1.inTurn capacity main' rfl begins with
    | held busy => cases free'.symm.trans busy
    | stored done =>
        refine absurd ?_ unstored
        simp only [History.stored, List.flatMap_append, List.flatMap_cons, List.mem_append]
        exact .inl (.inr (.inr done))
    | waits more waited =>
        have same : between.begun ++ e :: m'.after.pending =
          m.after.pending ++ e :: (more ++ more') := by
          rw [← turn', ← List.append_assoc, waited, List.append_assoc, List.cons_append]
        exact eq_of_append_cons first absent same

/-- Before the end, each accepted event is in one place, there is room for the event in hand, and,
of events that are told apart, none that has been let in is dropped and each one has its turn. -/
theorem fair_before_end (run : Run p past w) (capacity : p.maxPending ≠ some 0)
    (main : w.phase.isMain = true) :
    past.accepted.Perm (w.incoming ++ w.pending ++ w.phase.inHand ++ past.stored ++ past.dropped) ∧
      (∀ cap ∈ p.maxPending, w.pending.length + w.phase.inHand.length ≤ cap) ∧
      ∃ marks v f, Run p marks v ∧ marks.accepted.Nodup ∧ past = marks.rename f ∧ w = v.rename f ∧
        marks.Fair := by
  refine ⟨?_, ?_, ?_⟩
  · have all := run.conserved
    rw [run.length_lost.2 (isOver_of_isMain main)] at all
    refine List.perm_iff_count.mpr fun e => ?_
    have count := all.count_eq e
    simp only [holdings, List.append_nil, List.count_append] at count ⊢
    omega
  · intro cap limited
    exact run.hasRoom capacity main cap (run.policy ▸ limited)
  · obtain ⟨marks, v, f, run', distinct, image, image'⟩ := run.exists_marked
    have main' : v.phase.isMain = true := by
      rw [← Phase.isMain_rename f]
      exact (congrArg (·.phase.isMain) image').symm.trans main
    exact ⟨marks, v, f, run', distinct, image, image', run'.fair capacity main' distinct⟩

end Runs

/-! ### A full queue -/

def roomForTwo : Policy := ⟨.ofSecs 5, .ofSecs 1, some 2⟩

/-- Three events come at once. The first one fails, the second one is stored, and the first one is
tried again. -/
def threeAtOnce : List (Nat × Deed) :=
  [(0, .start), (0, .send default), (0, .send default), (0, .send default),
    (0, .proceed ⟨0, .refused⟩ true), (0, .proceed default true), (5000, .proceed default true),
    (5000, .proceed ⟨0, .stored⟩ true), (5000, .proceed default true),
    (5000, .proceed ⟨0, .refused⟩ true)]

theorem threeAtOnce_fair :
    ∃ past w, Run roomForTwo past w ∧ w.phase.isMain = true ∧ past.begun.length = 3 ∧
      past.stored.length = 1 ∧ past.dropped.length = 1 ∧
      past.accepted.Perm (w.incoming ++ w.pending ++ w.phase.inHand ++ past.stored ++
        past.dropped) ∧
      w.pending.length + w.phase.inHand.length ≤ 2 ∧
      ∃ marks v f, Run roomForTwo marks v ∧ marks.accepted.Nodup ∧ past = marks.rename f ∧
        w = v.rename f ∧ marks.Fair := by
  have run := run_of_replay roomForTwo threeAtOnce (by decide) rfl
  obtain ⟨all, room, fair⟩ := fair_before_end run (by decide) rfl
  exact ⟨_, _, run, rfl, rfl, rfl, rfl, all, room 2 rfl, fair⟩

end Vigil.Writer
