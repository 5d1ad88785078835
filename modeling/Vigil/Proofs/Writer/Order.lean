import Vigil.Proofs.Writer.Conservation

/-!
The order in which events are stored. A writer takes events in turn, and only a failed event loses
its turn: it goes behind those that wait. Main statement: `Writer.Run.in_order`, as long as no event
of a kind is put behind another one of the kind, and none is dropped, those of the kind are stored
in the order in which they were accepted.
-/

namespace Vigil.Writer

/-- Of an act, the event whose commit fails in it. -/
@[simp] def Act.refused? : Act → Option Event
  | .refused e => some e
  | _ => none

@[simp] theorem Act.filterMap_refused?_dropped (l : List Event) :
    l.filterMap (refused? ∘ Act.dropped) = [] := by
  simp [List.filterMap_eq_nil_iff]

def Moment.refused (m : Moment) : List Event := m.acts.filterMap Act.refused?

/-- If an event of a kind fails, no other one of the kind waits. -/
def Moment.KeepsTurns (q : Event → Bool) (m : Moment) : Prop :=
  ∀ e ∈ m.refused, q e = true → m.before.pending.filter q = []

instance (q : Event → Bool) (m : Moment) : Decidable (m.KeepsTurns q) :=
  inferInstanceAs (Decidable (∀ e ∈ m.refused, q e = true → m.before.pending.filter q = []))

/-- Nothing is dropped where nothing lacks room. -/
theorem fitting_of_spilling {w : Writer} (none : w.spilling = []) : w.fitting = w.incoming := by
  simpa [none] using w.fitting_append_spilling

/-- A step that drops nothing keeps the events of a kind in order if it keeps their turns. -/
theorem turn_in_order {q : Event → Bool} {w next : Writer} {now : Nat} {c : Commit}
    {acts : List Act} (turn : Turn w now c next acts) (sound : w.Sound) :
    let m : Moment := ⟨now, w, [], acts, next⟩
    m.dropped = [] → m.KeepsTurns q →
      w.holdings.filter q = (m.stored ++ m.lost ++ next.holdings).filter q := by
  intro m undropped turns
  simp only [m, Moment.dropped] at undropped
  simp only [holdings, m, Moment.stored, Moment.lost]
  cases turn with
  | settleDown phase none =>
      simp at undropped
      rw [fitting_of_spilling undropped] at none
      simp [phase, Phase.inHand, isOver, fitting_of_spilling undropped]
  | beginFirst phase first =>
      simp at undropped
      rw [fitting_of_spilling undropped] at first
      simp [phase, Phase.inHand, isOver, first, List.filterMap_cons]
  | beginComing phase going first =>
      simp [phase, Phase.inHand, isOver, first, sound.waiting phase, List.filterMap_cons]
  | turnToEnd phase =>
      have none : w.phase.inHand = [] := by rcases phase with h | ⟨due, h⟩ <;> rw [h] <;> rfl
      simp at undropped
      rw [none, fitting_of_spilling undropped]
      split <;> simp [Phase.inHand, isOver]
  | @putBack e due phase time room =>
      -- the event goes from the front to the back, past events that are not of the kind
      have past : q e = true → w.pending.filter q = [] :=
        turns e (by simp [m, Moment.refused])
      cases kind : q e with
      | true => simp [phase, Phase.inHand, isOver, List.filterMap_cons, kind, past kind]
      | false => simp [phase, Phase.inHand, isOver, List.filterMap_cons, kind]
  | cutShort phase =>
      simp at undropped
      simp [phase, Phase.inHand, isOver, undropped]
  | spill | giveUpLast => simp [List.filterMap_cons] at undropped
  | store phase | storeLast phase => simp [phase, Phase.inHand, isOver]
  | beginLast phase first => simp [phase, Phase.inHand, isOver, first, List.filterMap_cons]
  | wake phase | finish phase => simp [phase, Phase.inHand, isOver]
  | goDown held =>
      rw [held]
      simp [Phase.inHand, isOver, List.filterMap_cons]

theorem enact_in_order {q : Event → Bool} {w : Writer} {now : Nat} {d : Deed} {m : Moment}
    (done : w.enact now d = some m) (sound : w.Sound) (undropped : m.dropped = [])
    (turns : m.KeepsTurns q) :
    (w.holdings ++ m.accepted).filter q = (m.stored ++ m.lost ++ m.after.holdings).filter q := by
  rcases enact_cases done with ⟨c, next, acts, turn, rfl⟩ | ⟨accepted, next, aside, rfl⟩
  · simpa using turn_in_order turn sound undropped turns
  · simp [Moment.stored, aside.lost, aside.holdings]

variable {p : Policy} {past : History} {w : Writer}

/-- Events of a kind keep their order as long as none is dropped or lost and none of the kind is put
behind another one. -/
theorem Run.in_order (run : Run p past w) {q : Event → Bool} (undropped : past.dropped = [])
    (unlost : past.lost = []) (turns : ∀ m ∈ past, m.KeepsTurns q) :
    past.accepted.filter q = (past.stored ++ w.holdings).filter q := by
  induction run with
  | start => rfl
  | @step past w now d m run _ done ih =>
      rw [History.dropped_append, List.append_eq_nil_iff] at undropped
      rw [History.lost_append, List.append_eq_nil_iff] at unlost
      have before := ih undropped.1 unlost.1 fun m' mem => turns m' (List.mem_append_left _ mem)
      have here := enact_in_order done run.sound undropped.2 (turns m (by simp))
      simp only [unlost.2, List.filter_append, List.append_nil] at before here
      simp [before, here]

end Vigil.Writer
