import Vigil.Proofs.Watch.Grid

/-!
How the checks of a round are spread. They are sent at equal pauses, and exact pauses would fill
half of the time that is left of the interval. But the clock rounds up each pause to whole
milliseconds, so that the more checks there are, the longer they take; where there are more checks
than milliseconds left, the round runs into the next interval.

Main statement: `Watch.checks_are_spread`.
-/

namespace Vigil

open Vigil.Clock

namespace Watch

variable {w w' : Watch} {n : Nat}

/-- Services one pause after another are sent in the time that all pauses take together. -/
theorem sub_le_of_spaced {gap due count bound t : Nat} (most : 2 * ((count - 1) * gap) ≤ bound)
    (mem : t ∈ (List.range count).map (due + · * gap)) : 2 * (t - due) ≤ bound := by
  obtain ⟨i, inside, rfl⟩ := List.mem_map.mp mem
  have before : i ≤ count - 1 := Nat.le_sub_one_of_lt (List.mem_range.mp inside)
  have less := Nat.mul_le_mul_right gap before
  omega

/-- Where the refresh takes less than the interval, the services of a round that is not cancelled
are sent one after another at equal pauses, and the round ends at the first multiple of the interval
after the last of them. The pauses together are longer than half of the time that is left by at most
a millisecond for each service but the first; if there are few services, they fit into that half, up
to a whole millisecond. And the round lasts exactly one interval if and only if there are at most as
many services as milliseconds are left, or so many that there are no pauses at all. -/
theorem checks_are_spread {past : List Moment} (interval : w.policy.interval = .ofMillis n)
    (pos : 0 < n) (day : n ≤ 86400000) (idle : w.leader = .idle) (run : Run w past w') :
    ∀ earlier first inside last later, past = earlier ++ first :: (inside ++ last :: later) →
      first.begins = true → Within inside → last.ends = true →
      first.before.stage.fetchDelays.headD 0 < n →
      ∃ before m after left count, inside = before ++ m :: after ∧ sentIn before = [] ∧
        m.before.now = first.before.now + first.before.stage.fetchDelays.headD 0 ∧
        m.before.now + left = first.before.now + n ∧
        m.after.roster = (m.before.roster.merge w.policy.build m.before.stage.services
          m.before.stage.reachable).1 ∧
        count = m.after.roster.list.length ∧ (sentIn (m :: after)).Perm m.after.roster.list ∧
        (sentAt (m :: after)).map Prod.fst =
          (List.range count).map (m.before.now + · * Round.gap left count) ∧
        (∀ t ∈ (sentAt (m :: after)).map Prod.fst,
          2 * (t - m.before.now) ≤ left + 2 * (count - 1) ∧
          (2 * count * (count - 1) ≤ left → 2 * (t - m.before.now) ≤ left + 1)) ∧
        last.before.now = first.before.now +
          Round.next n (m.before.now + (count - 1) * Round.gap left count - first.before.now) ∧
        (last.before.now = first.before.now + n ↔
          count ≤ left ∨ left * Duration.millisecond < min (count * 2) Round.mostParts) := by
  rintro earlier first inside last later rfl begins within ends inTime
  have early : w.OnTime := onTime_of_none (by rw [due?, idle])
  obtain ⟨round, policy, early₀, goal, rounds, now, leader⟩ := run.round_of_begins early begins
  obtain ⟨before, m, after, rfl, none, fetched, merged, order, pause, perm, spacing, all, ended⟩ :=
    round.spaced_of_fetching (policy ▸ interval) pos day rounds early₀
      (Nat.le_of_eq now.symm) leader
      within (List.contains_iff_mem.mp ends)
  generalize delay : first.before.stage.fetchDelays.headD 0 = d at *
  have gap : pause.millisUp = Round.gap (n - d) order.length := by
    rw [spacing, policy, interval, Nat.add_sub_cancel_left, Round.pause_ofMillis inTime]
    rfl
  have sent : sentIn (m :: after) = order := by rw [← map_snd_sentAt, all, map_snd_spaced]
  have times : (sentAt (m :: after)).map Prod.fst =
      (List.range order.length).map (m.before.now + · * Round.gap (n - d) order.length) := by
    rw [all, map_fst_spaced, gap, fetched]
  have left_day : n - d ≤ 86400000 := Nat.le_trans (Nat.sub_le ..) day
  have atEnd : last.before.now = first.before.now +
      Round.next n (m.before.now + (order.length - 1) * Round.gap (n - d) order.length -
        first.before.now) := by
    rw [fetched, ← gap]
    exact ended
  refine ⟨before, m, after, n - d, order.length, rfl, none, fetched, by omega, policy ▸ merged,
    perm.length_eq, sent ▸ perm, times, fun t mem => ?_, atEnd, ?_⟩
  · rw [times] at mem
    exact ⟨sub_le_of_spaced (Round.gaps_le left_day) mem,
      fun few => sub_le_of_spaced (Round.gaps_le_half left_day few) mem⟩
  · rw [atEnd, ← Round.gaps_lt_iff (Nat.sub_pos_of_lt inTime) left_day, Nat.add_left_cancel_iff,
      Round.next_eq_iff pos, fetched]
    omega

/-! ### Three services -/

def threeServices (interval : Nat) (fetchDelays : List Nat) : Watch :=
  .ofParts ⟨Checker.Registry.builtin.builder default, .ofMillis interval, .ofMillis 5000⟩
    ⟨[sshService 1, sshService 2, sshService 3], true, fetchDelays, .empty, []⟩ default default

def roundOver (first second third last : Nat) : List Deed :=
  [.call .round, .tick first, .move .leader, .tick second, .move .leader, .tick third,
    .move .leader,
    .tick last, .move .leader]

theorem halfMinute_is_spread :
    ∃ first inside last later w',
      Run (threeServices 30000 [6000]) (first :: (inside ++ last :: later)) w' ∧
      (sentAt inside).map Prod.fst = [6000, 10000, 14000] ∧
      last.before.now = first.before.now + 30000 := by
  obtain ⟨first, inside, last, later, w', run, begins, within, ends, delay, times⟩ :=
    exists_round (threeServices 30000 [6000]) (roundOver 6000 10000 14000 30000) 7
      (fun first inside last later => first.begins = true ∧ Within inside ∧ last.ends = true ∧
        first.before.stage.fetchDelays.headD 0 = 6000 ∧
        (sentAt inside).map Prod.fst = [6000, 10000, 14000])
      (by decide +kernel)
  obtain ⟨before, m, after, left, count, whole, none, fetched, rest, -, -, -, spread, -, -, once⟩ :=
    checks_are_spread (n := 30000) rfl (by decide) (by decide) rfl run
      [] first inside last later rfl
      begins within ends (by omega)
  refine ⟨first, inside, last, later, w', run, times, once.mpr (.inl ?_)⟩
  rw [whole, sentAt_append, sentAt_of_none none, List.nil_append, spread] at times
  have three : count = 3 := by simpa using congrArg List.length times
  omega

/-- The refresh leaves a millisecond of a second, over the half of which three services are to be
spread. Two pauses of a millisecond each go beyond the second, and the round lasts two. -/
theorem roundedPauses_skip_interval :
    ∃ first inside last later w',
      Run (threeServices 1000 [999]) (first :: (inside ++ last :: later)) w' ∧
      first.begins = true ∧ Within inside ∧ last.ends = true ∧
      first.before.stage.fetchDelays.headD 0 < 1000 ∧
      (sentAt inside).map Prod.fst = [999, 1000, 1001] ∧
      last.before.now = first.before.now + 2000 :=
  exists_round (threeServices 1000 [999]) (roundOver 999 1000 1001 2000) 7
    (fun first inside last later => first.begins = true ∧ Within inside ∧ last.ends = true ∧
      first.before.stage.fetchDelays.headD 0 < 1000 ∧
      (sentAt inside).map Prod.fst = [999, 1000, 1001] ∧
      last.before.now = first.before.now + 2000)
    (by decide +kernel)

end Watch

end Vigil
