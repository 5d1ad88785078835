import Vigil.Watch.Round

/-!
The times of a round, for intervals of whole milliseconds. Main statements: `Round.rest_ofMillis`,
the rest of a round reaches up to the next multiple of the interval; `Round.gaps_lt_iff`, for how
many checks all pauses of a round together fit into what is left of the interval; `Round.pause?_eq`
and `Round.rest?_eq`, no arithmetic fails.
-/

namespace Vigil

open Vigil.Clock

/-! ### Times of a round -/

namespace Round

/-- The first multiple of a span after some time. -/
def next (n elapsed : Nat) : Nat := n * (elapsed / n + 1)

theorem lt_next {n : Nat} (pos : 0 < n) (elapsed : Nat) : elapsed < next n elapsed :=
  Nat.lt_mul_div_succ elapsed pos

theorem next_le (n elapsed : Nat) : next n elapsed ≤ elapsed + n := by
  rw [next, Nat.mul_add, Nat.mul_one]
  exact Nat.add_le_add_right (Nat.mul_div_le elapsed n) n

/-- The first multiple is the span itself as long as it has not passed. -/
theorem next_eq_iff {n : Nat} (pos : 0 < n) (elapsed : Nat) : next n elapsed = n ↔ elapsed < n := by
  constructor
  · intro same
    exact Nat.lt_of_lt_of_eq (lt_next pos elapsed) same
  · intro inside
    rw [next, Nat.div_eq_of_lt inside, Nat.zero_add, Nat.mul_one]

/-- For an interval of at most a day, the rest at the end of a round reaches up to the next multiple
of the interval. -/
theorem rest_ofMillis {n : Nat} (pos : 0 < n) (day : n ≤ 86400000) (elapsed : Nat) :
    rest (Duration.ofMillis n).nanos (elapsed * Duration.millisecond) =
      (next n elapsed - elapsed) * Duration.millisecond := by
  have ms : 0 < Duration.millisecond := by decide
  rcases Nat.lt_or_ge elapsed n with inside | beyond
  · have within : elapsed * Duration.millisecond < (Duration.ofMillis n).nanos :=
      Nat.mul_lt_mul_of_pos_right inside ms
    rw [rest, if_pos within, (next_eq_iff pos elapsed).mpr inside, Nat.sub_mul]
    rfl
  · have overrun : ¬ elapsed * Duration.millisecond < (Duration.ofMillis n).nanos :=
      Nat.not_lt.mpr (Nat.mul_le_mul_right _ beyond)
    have positive : 1 ≤ (Duration.ofMillis n).nanos := Nat.mul_pos pos ms
    have part : (elapsed * Duration.millisecond - (Duration.ofMillis n).nanos) %
        max (Duration.ofMillis n).nanos 1 = elapsed % n * Duration.millisecond := by
      rw [Nat.max_eq_left positive, Duration.ofMillis, ← Nat.sub_mul, Nat.mul_mod_mul_right,
        Nat.mod_eq_sub_mod beyond]
    -- The part of the interval that has passed fits into 64 bits.
    have less : elapsed % n < n := Nat.mod_lt _ pos
    have fits : elapsed % n * Duration.millisecond < partBound := calc
      elapsed % n * Duration.millisecond ≤ 86400000 * Duration.millisecond :=
        Nat.mul_le_mul_right _ (Nat.le_of_lt (Nat.lt_of_lt_of_le less day))
      _ < partBound := by decide
    rw [rest, if_neg overrun]
    dsimp only
    rw [part, if_pos fits, Duration.ofMillis, ← Nat.sub_mul]
    congr 1
    have whole := Nat.div_add_mod elapsed n
    rw [next, Nat.mul_add, Nat.mul_one]
    omega

/-! ### Pauses of whole milliseconds -/

/-- The milliseconds that pass between two of so many checks, when so many milliseconds are left of
the interval: the pause is not longer than that, and the clock rounds it up. -/
def gap (left count : Nat) : Nat :=
  Duration.millisUp ⟨left * Duration.millisecond / min (count * 2) mostParts⟩

/-- As long as the interval has not passed, checks are spread over what is left of it. -/
theorem pause_ofMillis {n elapsed : Nat} (inside : elapsed < n) (count : Nat) :
    pause (Duration.ofMillis n).nanos (elapsed * Duration.millisecond) count =
      (n - elapsed) * Duration.millisecond / min (count * 2) mostParts := by
  have within : elapsed * Duration.millisecond < (Duration.ofMillis n).nanos :=
    Nat.mul_lt_mul_of_pos_right inside (by decide)
  rw [pause, budget, if_pos within, Nat.sub_mul]
  rfl

section Gaps

variable {left count : Nat}

theorem parts_pos (enqueued : 0 < count) : 0 < min (count * 2) mostParts := by
  have most : 0 < mostParts := by decide
  omega

/-- By rounding up, each pause gains less than a millisecond. -/
theorem gap_lt (left : Nat) (enqueued : 0 < count) :
    min (count * 2) mostParts * gap left count < left + min (count * 2) mostParts := by
  have parts := parts_pos enqueued
  have whole := Nat.mul_div_le (left * Duration.millisecond) (min (count * 2) mostParts)
  have up : gap left count * Duration.millisecond <
      left * Duration.millisecond / min (count * 2) mostParts + Duration.millisecond := by
    have most := Nat.div_mul_le_self
      (left * Duration.millisecond / min (count * 2) mostParts + (Duration.millisecond - 1))
      Duration.millisecond
    have one : 0 < Duration.millisecond := by decide
    simp only [gap, Duration.millisUp]
    omega
  refine Nat.lt_of_mul_lt_mul_right (a := Duration.millisecond) ?_
  calc min (count * 2) mostParts * gap left count * Duration.millisecond
    _ = min (count * 2) mostParts * (gap left count * Duration.millisecond) := Nat.mul_assoc ..
    _ < min (count * 2) mostParts *
        (left * Duration.millisecond / min (count * 2) mostParts + Duration.millisecond) :=
      Nat.mul_lt_mul_of_pos_left up parts
    _ ≤ (left + min (count * 2) mostParts) * Duration.millisecond := by
      rw [Nat.mul_add, Nat.add_mul]
      exact Nat.add_le_add_right whole _

/-- No pause is cut to less than the whole milliseconds for which there is time. -/
theorem le_gap {k : Nat} (enqueued : 0 < count) (enough : min (count * 2) mostParts * k ≤ left) :
    k ≤ gap left count := by
  have one : 0 < Duration.millisecond := by decide
  have nanos : k * Duration.millisecond ≤
      left * Duration.millisecond / min (count * 2) mostParts := by
    rw [Nat.le_div_iff_mul_le (parts_pos enqueued), Nat.mul_right_comm, Nat.mul_comm k]
    exact Nat.mul_le_mul_right _ enough
  rw [gap, Duration.millisUp, Nat.le_div_iff_mul_le one]
  exact Nat.le_add_right_of_le nanos

/-- There is no pause only if there are so many checks that it would be shorter than a
nanosecond. -/
theorem gap_eq_zero_iff (enqueued : 0 < count) :
    gap left count = 0 ↔ left * Duration.millisecond < min (count * 2) mostParts := by
  have one : 0 < Duration.millisecond := by decide
  simp only [gap, Duration.millisUp]
  rw [Nat.div_eq_zero_iff_lt one, ← Nat.div_eq_zero_iff_lt (parts_pos enqueued)]
  generalize left * Duration.millisecond / min (count * 2) mostParts = nanos
  omega

/-- In a day there is no time for so many pauses of more than a millisecond. -/
theorem gap_le_one (enqueued : 0 < count) (day : left ≤ 86400000) (many : mostParts < count * 2) :
    gap left count ≤ 1 := by
  have less := gap_lt left enqueued
  rw [Nat.min_eq_right (Nat.le_of_lt many)] at less
  have short : 86400000 < mostParts := by decide
  have twice : mostParts * gap left count < mostParts * 2 := by omega
  exact Nat.le_of_lt_succ (Nat.lt_of_mul_lt_mul_left twice)

/-- By rounding up, all pauses of a round together gain less than a millisecond for each check. -/
theorem gaps_lt (left : Nat) (enqueued : 0 < count) (few : count * 2 ≤ mostParts) :
    2 * ((count - 1) * gap left count) + 2 * gap left count < left + 2 * count := by
  have less := gap_lt left enqueued
  obtain ⟨k, rfl⟩ : ∃ k, count = k + 1 := ⟨count - 1, by omega⟩
  rw [Nat.min_eq_left few, Nat.add_mul, Nat.add_mul, Nat.mul_right_comm k] at less
  rw [Nat.add_sub_cancel]
  omega

/-- All pauses of a round together are longer than half of the time that is left by at most a
millisecond for each check but the first. -/
theorem gaps_le (day : left ≤ 86400000) :
    2 * ((count - 1) * gap left count) ≤ left + 2 * (count - 1) := by
  rcases Nat.eq_zero_or_pos count with rfl | enqueued
  · simp
  rcases Nat.lt_or_ge mostParts (count * 2) with many | few
  · have short := Nat.mul_le_mul_left (count - 1) (gap_le_one enqueued day many)
    omega
  · have less := gaps_lt left enqueued few
    rcases Nat.eq_zero_or_pos (gap left count) with none | pause
    · simp [none]
    · omega

/-- If there are few checks, all pauses of a round together fit into half of the time that is left,
rounded up to a whole millisecond. -/
theorem gaps_le_half (day : left ≤ 86400000) (few : 2 * count * (count - 1) ≤ left) :
    2 * ((count - 1) * gap left count) ≤ left + 1 := by
  rcases Nat.eq_zero_or_pos count with rfl | enqueued
  · simp
  have fewer : count * 2 ≤ mostParts := by
    have most : 86400004 ≤ mostParts := by decide
    rcases Nat.lt_or_ge count 2 with one | two
    · omega
    · have once := Nat.mul_le_mul_left (2 * count) (Nat.le_sub_one_of_lt two)
      omega
  have less := gaps_lt left enqueued fewer
  have long : count - 1 ≤ gap left count := by
    refine le_gap enqueued (Nat.le_trans (Nat.mul_le_mul_right _ (Nat.min_le_left ..)) ?_)
    rwa [Nat.mul_comm count]
  omega

/-- All pauses of a round together are shorter than the time that is left exactly if there are at
most as many checks as milliseconds - or so many that there are no pauses at all. -/
theorem gaps_lt_iff (pos : 0 < left) (day : left ≤ 86400000) :
    (count - 1) * gap left count < left ↔
      count ≤ left ∨ left * Duration.millisecond < min (count * 2) mostParts := by
  rcases Nat.eq_zero_or_pos count with rfl | enqueued
  · simp [pos]
  rw [← gap_eq_zero_iff enqueued]
  constructor
  · intro less
    rcases Nat.eq_zero_or_pos (gap left count) with none | pause
    · exact .inr none
    · have most := Nat.le_mul_of_pos_right (count - 1) pause
      exact .inl (by omega)
  · rintro (few | none)
    · have fewer : count * 2 ≤ mostParts := by
        have most : 86400000 * 2 ≤ mostParts := by decide
        omega
      have less := gaps_lt left enqueued fewer
      rcases Nat.lt_or_ge (gap left count) 2 with short | long
      · have most := Nat.mul_le_mul_left (count - 1) (Nat.le_of_lt_succ short)
        omega
      · -- with pauses of two milliseconds or more there is room for the rounding
        have most := Nat.mul_le_mul_left (count - 1) long
        omega
    · rw [none, Nat.mul_zero]
      exact pos

end Gaps

/-! ### Arithmetic that can fail -/

/-- The difference, if it is none of a debt. -/
def sub? (a b : Nat) : Option Nat := if b ≤ a then some (a - b) else none

def div? (a b : Nat) : Option Nat := if b = 0 then none else some (a / b)

def mod? (a b : Nat) : Option Nat := if b = 0 then none else some (a % b)

/-- The pause between two checks, if nothing fails. -/
def pause? (interval elapsed n : Nat) : Option Nat := do
  let budget ← if elapsed < interval then sub? interval elapsed else some interval
  div? budget (min (n * 2) mostParts)

/-- The rest at the end of a round, if nothing fails. -/
def rest? (interval elapsed : Nat) : Option Nat :=
  if elapsed < interval then sub? interval elapsed
  else do
    let overrun ← sub? elapsed interval
    let part ← mod? overrun (max interval 1)
    sub? interval (if part < partBound then part else 0)

/-- Nothing fails if there is a check. -/
theorem pause?_eq (interval elapsed : Nat) {n : Nat} (enqueued : 0 < n) :
    pause? interval elapsed n = some (pause interval elapsed n) := by
  have parts : min (n * 2) mostParts ≠ 0 := by
    have most : 0 < mostParts := by decide
    omega
  simp only [pause?, pause, budget, sub?, div?, if_neg parts]
  by_cases inside : elapsed < interval
  · simp [inside, Nat.le_of_lt inside]
  · simp [inside]

/-- Neither subtraction nor division fails in the rest. -/
theorem rest?_eq (interval elapsed : Nat) :
    rest? interval elapsed = some (rest interval elapsed) := by
  unfold rest? rest
  by_cases inside : elapsed < interval
  · simp [inside, sub?, Nat.le_of_lt inside]
  · have beyond : interval ≤ elapsed := Nat.le_of_not_lt inside
    have divisor : max interval 1 ≠ 0 := by omega
    have less : (elapsed - interval) % max interval 1 ≤ interval := by
      rcases Nat.eq_zero_or_pos interval with zero | pos
      · simp [zero, Nat.mod_one]
      · rw [Nat.max_eq_left pos]
        exact Nat.le_of_lt (Nat.mod_lt _ pos)
    have part : (if (elapsed - interval) % max interval 1 < partBound then
        (elapsed - interval) % max interval 1 else 0) ≤ interval := by
      split
      · exact less
      · exact Nat.zero_le _
    simp [inside, sub?, mod?, beyond, divisor, part]

end Round

end Vigil
