import Mathlib.Data.List.Nodup
import Vigil.Proofs.Writer.Conservation

/-!
A writer does not look into events: put others in their places, and it does the same with those. So
each run shows another one in which all events that are accepted are different from each other, and
which tells apart what is only told apart by where it comes from.

Main statements: `Writer.Run.rename`, what is made of a run by other events in place of the ones
there is a run; and `Writer.Run.exists_marked`, each run is made so of one whose events are all
different.
-/

namespace Vigil.Writer

variable {f : Event → Event}

/-! ### Other events in place -/

@[simp] def Phase.rename (f : Event → Event) : Phase → Phase
  | .unstarted => .unstarted
  | .ready => .ready
  | .waiting => .waiting
  | .committing e due outcome => .committing (f e) due outcome
  | .resting due => .resting due
  | .flushing limit => .flushing limit
  | .flushCommitting e due outcome limit => .flushCommitting (f e) due outcome limit
  | .finished => .finished
  | .crashed => .crashed

@[simp] def Act.rename (f : Event → Event) : Act → Act
  | .began e => .began (f e)
  | .stored e => .stored (f e)
  | .refused e => .refused (f e)
  | .dropped e => .dropped (f e)

/-- The writer with other events in place of those that it has. -/
def rename (f : Event → Event) (w : Writer) : Writer :=
  { w with
    incoming := w.incoming.map f
    pending := w.pending.map f
    phase := w.phase.rename f }

def Deed.rename (f : Event → Event) : Deed → Deed
  | .start => .start
  | .send e => .send (f e)
  | .abandon => .abandon
  | .stop => .stop
  | .proceed c hears => .proceed c hears

def Moment.rename (f : Event → Event) (m : Moment) : Moment :=
  ⟨m.now, m.before.rename f, m.accepted.map f, m.acts.map (Act.rename f), m.after.rename f⟩

def History.rename (f : Event → Event) (past : History) : History := past.map (Moment.rename f)

@[simp] theorem History.rename_append (past later : History) :
    rename f (past ++ later) = past.rename f ++ later.rename f := by simp [rename]

/-! ### One deed -/

theorem fitting_rename (w : Writer) : (w.rename f).fitting = w.fitting.map f := by
  cases cap : w.policy.maxPending <;> simp [rename, fitting, cap]

theorem spilling_rename (w : Writer) : (w.rename f).spilling = w.spilling.map f := by
  cases cap : w.policy.maxPending <;> simp [rename, spilling, cap]

theorem collect_rename (w : Writer) :
    (w.rename f).collect = w.collect.map (rename f) (List.map (Act.rename f)) := by
  rw [collect_eq, collect_eq, fitting_rename, spilling_rename]
  simp [rename]

theorem flush_rename (w : Writer) (now : Nat) :
    (w.rename f).flush now = (w.flush now).map (rename f) (List.map (Act.rename f)) := by
  have waiting : ((w.pending ++ w.fitting).map f).isEmpty = (w.pending ++ w.fitting).isEmpty := by
    rw [List.isEmpty_map]
  rw [flush_eq, flush_eq, fitting_rename, spilling_rename]
  simp only [rename, ← List.map_append, waiting, List.length_map, Prod.map_apply, List.map_map,
    List.map_nil]
  split
  · rfl
  · rfl

theorem retry_rename (w : Writer) (now : Nat) (e : Event) :
    (w.rename f).retry now (f e) = (w.retry now e).map (rename f) (List.map (Act.rename f)) := by
  have same : (w.rename f).isFull = w.isFull := by simp [isFull, rename]
  cases full : w.isFull with
  | true =>
      rw [retry_of_isFull (same.trans full), retry_of_isFull full]
      rfl
  | false =>
      rw [retry_of_not_isFull (same.trans full), retry_of_not_isFull full]
      simp [rename, Act.rename]

/-- A writer does the same with other events. -/
theorem move_rename (w : Writer) (now : Nat) (c : Commit) (hears : Bool) :
    (w.rename f).move now c hears =
      (w.move now c hears).map (Prod.map (rename f) (List.map (Act.rename f))) := by
  cases phase : w.phase with
  | unstarted | finished | crashed => simp [move, rename, phase]
  | ready =>
      have same : (w.rename f).phase = .ready := by simp [rename, phase]
      simp only [move, same, phase, collect_rename]
      cases queue : w.collect.1.pending with
      | nil => simp [rename, queue]
      | cons e rest => simp [rename, queue, begin]
  | waiting =>
      have same : (w.rename f).phase = .waiting := by simp [rename, phase]
      have stopping : (w.rename f).stopping = w.stopping := rfl
      have abandoned : (w.rename f).abandoned = w.abandoned := rfl
      simp only [move, same, phase, flush_rename, stopping, abandoned]
      split
      · rfl
      · cases queue : w.incoming with
        | nil => simp [rename, queue]
        | cons e rest => simp [rename, queue, begin]
  | committing e due outcome =>
      have same : (w.rename f).phase = .committing (f e) due outcome := by
        simp [rename, phase]
      simp only [move, same, phase]
      split
      · rfl
      · cases outcome with
        | stored => rfl
        | refused => simp [retry_rename]
        | crash => rfl
  | resting due =>
      have same : (w.rename f).phase = .resting due := by simp [rename, phase]
      have stopping : (w.rename f).stopping = w.stopping := rfl
      simp only [move, same, phase, flush_rename, stopping]
      split
      · rfl
      · split
        · rfl
        · rfl
  | flushing limit =>
      have same : (w.rename f).phase = .flushing limit := by simp [rename, phase]
      simp only [move, same, phase]
      cases queue : w.pending with
      | nil => simp [rename, queue]
      | cons e rest => simp [rename, queue]
  | flushCommitting e due outcome limit =>
      have same : (w.rename f).phase = .flushCommitting (f e) due outcome limit := by
        simp [rename, phase]
      simp only [move, same, phase]
      split
      · cases outcome <;> rfl
      · split
        · simp [cutOff, rename]
        · rfl

/-- The writer does not look at its events: with others in their place it does the same. -/
theorem enact_rename (w : Writer) (now : Nat) (d : Deed) :
    (w.rename f).enact now (d.rename f) = (w.enact now d).map (Moment.rename f) := by
  cases d with
  | proceed c hears =>
      simp only [enact, Deed.rename, move_rename, Option.map_map]
      rfl
  | start =>
      cases phase : w.phase <;> simp [enact, Deed.rename, Moment.rename, start, rename, phase]
  | send e =>
      cases accepts : w.accepting <;>
        simp [enact, Deed.rename, Moment.rename, accept, rename, accepts]
  | abandon | stop => rfl

/-! ### Whole runs -/

variable {p : Policy} {past : History} {w : Writer}

/-- A run with other events is a run. -/
theorem Run.rename (run : Run p past w) : Run p (past.rename f) (w.rename f) := by
  induction run with
  | start => exact .start
  | @step past w now d m run later done ih =>
      have done' : (w.rename f).enact now (d.rename f) = some (m.rename f) := by
        rw [enact_rename, done]
        rfl
      rw [History.rename_append]
      refine ih.step (fun m' mem => ?_) done'
      obtain ⟨m'', before, rfl⟩ := List.mem_map.mp mem
      exact later m'' before

/-! ### Marked events -/

/-- An event that is nothing but a number. -/
def mark (n : Nat) : Event := { (default : Event) with service := n }

/-- The event of a list that a mark stands for. -/
def marked (all : List Event) (e : Event) : Event := all.getD e.service.toNat default

theorem mark_injective : Function.Injective mark := by
  intro a b same
  have numbers : (a : Int) = b := congrArg Event.service same
  exact Int.ofNat.inj numbers

/-- Only a sender brings events in. -/
theorem accepted_of_enact {now : Nat} {d : Deed} {m : Moment} (done : w.enact now d = some m) :
    m.accepted = [] ∨ ∃ e, d = .send e ∧ m.accepted = [e] := by
  cases d with
  | send e =>
      cases done
      cases w.accepting with
      | true => exact .inr ⟨e, rfl, rfl⟩
      | false => exact .inl rfl
  | proceed c =>
      obtain ⟨⟨next, acts⟩, -, rfl⟩ := Option.map_eq_some_iff.mp done
      exact .inl rfl
  | start | abandon | stop =>
      cases done
      exact .inl rfl

/-- The same deed, but an event that is sent is marked. -/
def Deed.mark (k : Nat) : Deed → Deed
  | .send _ => .send (Writer.mark k)
  | d => d

/-- If the next event that is accepted is the next one of a list, a mark does for it. -/
theorem enact_mark {all : List Event} {now : Nat} {d : Deed} {m : Moment} {k : Nat}
    (done : w.enact now d = some m) (next : m.accepted <+: all.drop k) :
    w.enact now ((d.mark k).rename (marked all)) = some m := by
  cases d with
  | send e =>
      cases accepts : w.accepting with
      | true =>
          have here : m.accepted = [e] := by
            cases done
            exact if_pos accepts
          have number : marked all (mark k) = e := by
            obtain ⟨rest, split⟩ := next
            have first : all[k]? = some e := by
              rw [← Nat.add_zero k, ← List.getElem?_drop, ← split, here]
              rfl
            simp [marked, mark, first]
          rw [Deed.mark, Deed.rename, number]
          exact done
      | false =>
          cases done
          simp [Deed.mark, Deed.rename, enact, accept, accepts]
  | start | abandon | stop | proceed => exact done

/-- Every run is one with different events, but for what these are. -/
theorem Run.exists_marked (run : Run p past w) :
    ∃ marks v f, Run p marks v ∧ marks.accepted.Nodup ∧ past = marks.rename f ∧ w = v.rename f := by
  suffices known : ∀ all, past.accepted <+: all → ∃ marks v, Run p marks v ∧
      marks.accepted = (List.range past.accepted.length).map mark ∧
      past = marks.rename (marked all) ∧ w = v.rename (marked all) by
    obtain ⟨marks, v, run', numbers, image, image'⟩ := known _ List.prefix_rfl
    refine ⟨marks, v, _, run', ?_, image, image'⟩
    rw [numbers]
    exact List.nodup_range.map mark_injective
  intro all
  induction run with
  | start => exact fun _ => ⟨[], _, .start, rfl, rfl, rfl⟩
  | @step past w now d m run later done ih =>
      intro known
      rw [History.accepted_append] at known
      obtain ⟨marks, v, run', numbers, image, image'⟩ := ih ((List.prefix_append _ _).trans known)
      have next : m.accepted <+: all.drop past.accepted.length := by
        obtain ⟨rest, split⟩ := known
        exact ⟨rest, by simp [← split]⟩
      have same := enact_mark done next
      rw [image', enact_rename] at same
      obtain ⟨m', done', rfl⟩ := Option.map_eq_some_iff.mp same
      refine ⟨marks ++ [m'], m'.after, run'.step ?_ done', ?_, by simp [image, History.rename], rfl⟩
      · intro m'' mem
        have mem' : m''.rename (marked all) ∈ past := image ▸ List.mem_map_of_mem mem
        exact later (m''.rename (marked all)) mem'
      · rw [History.accepted_append, History.accepted_append, numbers]
        rcases accepted_of_enact done' with none | ⟨e, same, here⟩
        · simp [none, Moment.rename]
        · have number : e = mark past.accepted.length := by
            cases d <;> cases same
            rfl
          simp [here, number, Moment.rename, List.range_succ]

end Vigil.Writer
