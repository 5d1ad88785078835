import Vigil.Confirmation.Basic

/-!
Which runs a check with confirmation makes, and when. The runs are those up to the deciding one: the
first whose verdict would not be reported, or else the last repetition.

Main definitions: `Confirmation.deciding`, the number of the deciding run; `Run.Tells`, what a run
comes to. Main statement: `Confirmation.runs_up_to_deciding`.
-/

namespace Vigil

open Vigil.Clock

namespace Behaviour

variable {b : Behaviour} {timeout : Duration} {v : Verdict}

/-- The limit of a run is a second more than the timeout, or less if there is no such span. -/
theorem limit_le (timeout : Duration) :
    (limit timeout).millisUp ≤ Duration.millisUp ⟨timeout.nanos + Duration.second⟩ := by
  have least : (limit timeout).nanos ≤ timeout.nanos + Duration.second := by
    refine Nat.le_trans (Nat.min_le_left ..) (Nat.add_le_add_left ?_ _)
    exact Nat.le_of_eq (Nat.one_mul _)
  exact Nat.div_le_div_right (Nat.add_le_add_right least _)

/-- A verdict that is there in time is the verdict of the run. -/
theorem verdict_of_inTime (reply : b.reply = .verdict v)
    (inTime : b.delay ≤ (limit timeout).millisUp) :
    b.verdict timeout = v ∧ b.length timeout = b.delay := by
  constructor
  · rw [verdict, if_neg (Nat.not_lt.mpr inTime), reply]
  · rw [length, reply]
    exact Nat.min_eq_left inTime

/-- In all other cases the service is down. -/
theorem status_verdict (late : ∀ v, b.reply = .verdict v → (limit timeout).millisUp < b.delay) :
    (b.verdict timeout).status = .down := by
  unfold verdict
  split
  · rfl
  · rename_i inTime
    cases reply : b.reply with
    | verdict v => exact absurd (late v reply) inTime
    | failure => rfl
    | silence => rfl

end Behaviour

/-- What a run of a check comes to: the verdict of the check if it is there in time, and otherwise
that the service is down. -/
structure Run.Tells (x : Run) (b : Behaviour) (timeout : Duration) : Prop where
  answer : ∀ v, b.reply = .verdict v → b.delay ≤ (Behaviour.limit timeout).millisUp →
    x.verdict = v ∧ x.ended = x.began + b.delay
  failure : (∀ v, b.reply = .verdict v → (Behaviour.limit timeout).millisUp < b.delay) →
    x.verdict.status = .down
  bound : x.began ≤ x.ended ∧ x.ended ≤ x.began +
    Duration.millisUp ⟨timeout.nanos + Duration.second⟩

namespace Confirmation

theorem tells_runOnce (b : Behaviour) (timeout : Duration) (now : Nat) :
    (runOnce b timeout now).Tells b timeout where
  answer v reply inTime := by
    obtain ⟨same, length⟩ := Behaviour.verdict_of_inTime reply inTime
    exact ⟨same, congrArg (now + ·) length⟩
  failure late := Behaviour.status_verdict late
  bound := ⟨Nat.le_add_right .., Nat.add_le_add_left
    (Nat.le_trans (b.length_le timeout) (Behaviour.limit_le timeout)) _⟩

section Runs

variable (c : Confirmation) (timeout : Duration) (previous : Status) (behaviour : Nat → Behaviour)

/-- Whether the verdict of a run, if it is made, would be reported. -/
def reports (n : Nat) : Bool := previous.isTransition ((behaviour n).verdict timeout).status

/-- The number of the deciding run: the first whose verdict would not be reported, or else the last
repetition. -/
def deciding : Nat :=
  ((List.range (c.retries + 1)).find? fun n => !reports timeout previous behaviour n).getD c.retries

/-- When a run begins if it is made. -/
def beginning : Nat → Nat
  | 0 => 0
  | n + 1 => beginning n + (behaviour n).length timeout + c.pause.millisUp

def run (n : Nat) : Run := runOnce (behaviour n) timeout (c.beginning timeout behaviour n)

/-- The deciding run is one that may be made, all runs before it would be reported, and if it would
be too, no repetition is left. -/
theorem deciding_cases : c.deciding timeout previous behaviour ≤ c.retries ∧
    (∀ n < c.deciding timeout previous behaviour, reports timeout previous behaviour n = true) ∧
    (reports timeout previous behaviour (c.deciding timeout previous behaviour) = true →
      c.deciding timeout previous behaviour = c.retries) := by
  unfold deciding
  cases found : (List.range (c.retries + 1)).find? fun n =>
    !reports timeout previous behaviour n with
  | none =>
      have all : ∀ n ∈ List.range (c.retries + 1), reports timeout previous behaviour n = true := by
        simpa using found
      exact ⟨Nat.le_refl _, fun n less => all n (List.mem_range.mpr (Nat.lt_succ_of_lt less)),
        fun _ => rfl⟩
  | some m =>
      obtain ⟨settled, inside, before⟩ := List.find?_range_eq_some.mp found
      refine ⟨Nat.le_of_lt_succ (List.mem_range.mp inside),
        fun n less => by simpa using before n less, ?_⟩
      intro change
      change reports timeout previous behaviour m = true at change
      rw [change] at settled
      cases settled

variable {c timeout previous behaviour}

/-- The deciding run would be reported only if all that there may be would. -/
theorem reports_deciding :
    reports timeout previous behaviour (c.deciding timeout previous behaviour) = true ↔
      ∀ n ≤ c.retries, reports timeout previous behaviour n = true := by
  obtain ⟨within, before, last⟩ := c.deciding_cases timeout previous behaviour
  constructor
  · intro change n le
    rw [← last change] at le
    rcases Nat.lt_or_eq_of_le le with less | rfl
    · exact before n less
    · exact change
  · exact fun all => all _ within

/-- From each run on, those that are made are the ones up to the deciding one. -/
theorem runsFrom_eq {left n m : Nat} (here : n ≤ m) (within : m ≤ n + left)
    (before : ∀ i, n ≤ i → i < m → reports timeout previous behaviour i = true)
    (last : reports timeout previous behaviour m = true → m = n + left) :
    c.runsFrom timeout previous behaviour left n (c.beginning timeout behaviour n) =
      (List.range' n (m + 1 - n)).map (c.run timeout behaviour) := by
  induction left generalizing n with
  | zero =>
      obtain rfl : m = n := Nat.le_antisymm within here
      rw [Nat.add_sub_cancel_left]
      rfl
  | succ left ih =>
      have goesOn : goesOn previous (left + 1) (c.run timeout behaviour n).verdict =
          reports timeout previous behaviour n := Bool.and_true _
      rw [runsFrom]
      change (if Confirmation.goesOn previous (left + 1) (c.run timeout behaviour n).verdict then _
        else _) = _
      rw [goesOn]
      cases change : reports timeout previous behaviour n with
      | false =>
          -- a run before the deciding one would be reported
          have settled : ¬ n < m := fun less => by
            simpa [change] using before n (Nat.le_refl n) less
          obtain rfl : n = m := by omega
          rw [Nat.add_sub_cancel_left]
          rfl
      | true =>
          have further : n < m := by
            rcases Nat.lt_or_eq_of_le here with less | rfl
            · exact less
            · have := last change
              omega
          have rest := ih (n := n + 1) further (by omega)
            (fun i le => before i (Nat.le_of_succ_le le))
              (fun change => by have := last change; omega)
          have count : m + 1 - n = m + 1 - (n + 1) + 1 := by omega
          rw [count, List.range'_succ, List.map_cons, ← rest]
          rfl

/-- The runs that are made are those up to the deciding one. -/
theorem runs_eq : c.runs timeout previous behaviour =
    (List.range (c.deciding timeout previous behaviour + 1)).map (c.run timeout behaviour) := by
  obtain ⟨within, before, last⟩ := c.deciding_cases timeout previous behaviour
  rw [List.range_eq_range']
  exact runsFrom_eq (Nat.zero_le _) (by simpa using within) (fun i _ => before i)
    (by simpa using last)

end Runs

/-- A check is run until a verdict would not be reported, or the last repetition has been made. Its
verdict is that of this last run, so that it would be reported exactly if the verdicts of all the
runs that there may be would. The first run begins at once, and each other one a pause after the run
before has ended. -/
theorem runs_up_to_deciding (c : Confirmation) (timeout : Duration) (previous : Status)
    (behaviour : Nat → Behaviour) :
    ∃ m, m ≤ c.retries ∧ (∀ n < m, reports timeout previous behaviour n = true) ∧
      (reports timeout previous behaviour m = true → m = c.retries) ∧
      (c.runs timeout previous behaviour).length = m + 1 ∧
      (∃ last, (c.runs timeout previous behaviour).getLast? = some last ∧
        last.verdict = (behaviour m).verdict timeout ∧
        (previous.isTransition last.verdict.status = true ↔
          ∀ n ≤ c.retries, reports timeout previous behaviour n = true)) ∧
      (∀ n x, (c.runs timeout previous behaviour)[n]? = some x →
        x.verdict = (behaviour n).verdict timeout ∧ x.Tells (behaviour n) timeout) ∧
      (∀ x, (c.runs timeout previous behaviour)[0]? = some x → x.began = 0) ∧
      ∀ n x y, (c.runs timeout previous behaviour)[n]? = some x →
        (c.runs timeout previous behaviour)[n + 1]? = some y →
        y.began = x.ended + c.pause.millisUp := by
  obtain ⟨within, before, last⟩ := c.deciding_cases timeout previous behaviour
  have made {n : Nat} {x : Run} (here : (c.runs timeout previous behaviour)[n]? = some x) :
      x = c.run timeout behaviour n := by
    rw [runs_eq, List.getElem?_map, Option.map_eq_some_iff] at here
    obtain ⟨i, found, rfl⟩ := here
    obtain ⟨inside, rfl⟩ := List.getElem?_eq_some_iff.mp found
    rw [List.getElem_range]
  refine ⟨_, within, before, last, ?_, ⟨c.run timeout behaviour _, ?_, rfl, reports_deciding⟩,
    fun n x here => ?_, fun x here => ?_, fun n x y here next => ?_⟩
  · rw [runs_eq, List.length_map, List.length_range]
  · rw [runs_eq, List.range_succ, List.map_append]
    exact List.getLast?_concat
  · cases made here
    exact ⟨rfl, tells_runOnce ..⟩
  · cases made here
    rfl
  · cases made here
    cases made next
    rfl

end Confirmation

end Vigil
