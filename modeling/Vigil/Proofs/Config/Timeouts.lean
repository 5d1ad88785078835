import Vigil.Checker.Registry
import Vigil.Config.Basic
import Vigil.Proofs.Outcome

/-!
Timeouts that are given in seconds, as the setting for all checks and as arguments of services.

A number of seconds becomes a whole number of nanoseconds, so that a positive number may come to no
time at all. As an argument such a number is refused; as a setting only zero itself is.

Main definition: `Decimal.Binary64.IsSliver`, a positive number of seconds that comes to no time.
Main statement: `Config.timeouts_of_validate`, with settings that are valid every span of time is
one, no check may take longer than a day, and a check has no time at all exactly if the setting is a
sliver and the service has no timeout of its own.
-/

namespace Vigil

open Vigil.Clock

/-! ### Rounding -/

namespace Decimal

/-- What is at most a whole number is rounded to at most that. -/
theorem roundDiv_le {num den bound : Nat} (pos : 0 < den) (le : num ≤ bound * den) :
    roundDiv num den ≤ bound := by
  have quotient : num / den ≤ bound := Nat.div_le_of_le_mul (Nat.mul_comm bound den ▸ le)
  rcases Nat.lt_or_eq_of_le quotient with less | same
  · unfold roundDiv
    dsimp only
    split
    · exact quotient
    · split
      · exact less
      · split
        · exact quotient
        · exact less
  · -- The quotient is whole, and nothing is left.
    have split := Nat.div_add_mod num den
    rw [same, Nat.mul_comm] at split
    have none : num % den = 0 := by omega
    have exact_quotient : roundDiv num den = num / den := by
      simp [roundDiv, none, pos]
    exact Nat.le_of_eq (exact_quotient.trans same)

/-- What is rounded to nothing is at most a half. -/
theorem roundDiv_eq_zero_iff {num den : Nat} (pos : 0 < den) :
    roundDiv num den = 0 ↔ 2 * num ≤ den := by
  constructor
  · intro none
    have close := (roundDiv_close num pos).1
    rw [none] at close
    omega
  · intro half
    have less : num < den := by omega
    have quotient : num / den = 0 := Nat.div_eq_of_lt less
    have rest : num % den = num := Nat.mod_eq_of_lt less
    simp only [roundDiv, quotient, rest]
    split
    · rfl
    · split
      · omega
      · rfl

namespace Binary64

theorem ratio_pos (m : Nat) (e : Int) : 0 < (ratio m e).2 := by
  unfold ratio
  split
  · exact Nat.one_pos
  · exact Nat.pow_pos (by decide)

/-- Only zero has a numerator of zero. -/
theorem ratio_eq_zero_iff (m : Nat) (e : Int) : (ratio m e).1 = 0 ↔ m = 0 := by
  unfold ratio
  split
  · have pos : 0 < Nat.pow 2 e.toNat := Nat.pow_pos (by decide)
    constructor
    · intro none
      rcases Nat.mul_eq_zero.mp none with none | none
      · exact none
      · omega
    · rintro rfl
      exact Nat.zero_mul _
  · exact Iff.rfl

/-- A positive number of seconds that is no more than half a nanosecond. -/
def IsSliver : Binary64 → Prop
  | .finite false m e => m ≠ 0 ∧ 2 * ((ratio m e).1 * Duration.second) ≤ (ratio m e).2
  | _ => False

instance (x : Binary64) : Decidable x.IsSliver :=
  match x with
  | .finite false m e =>
      inferInstanceAs (Decidable (m ≠ 0 ∧ 2 * ((ratio m e).1 * Duration.second) ≤ (ratio m e).2))
  | .finite true _ _ | .infinite _ | .nan => inferInstanceAs (Decidable False)

end Binary64

end Decimal

open Vigil.Decimal

/-! ### Numbers of seconds -/

/-- A number between nothing and a day is a span of time, and one of at most a day. It is one of no
time at all exactly if the number is zero or a sliver. -/
theorem Clock.Duration.ofSeconds_of_isSpan {x : Binary64} (bounded : Config.isSpan x = true) :
    ∃ d, Duration.ofSeconds x = .ok d ∧ d.nanos ≤ Checker.maxTimeout.nanos ∧
      (d.nanos = 0 ↔ x.isZero = true ∨ x.IsSliver) := by
  cases x with
  | infinite s => simp [Config.isSpan, Binary64.isFinite] at bounded
  | nan => simp [Config.isSpan, Binary64.isFinite] at bounded
  | finite s m e =>
      have pos := Binary64.ratio_pos m e
      -- A negative number that is allowed is minus zero.
      have sign : s = true → m = 0 := by
        rintro rfl
        simpa [Config.isSpan, Binary64.isFinite, Binary64.isZero, Binary64.isNegative,
          Binary64.atMost] using bounded
      have most : (Binary64.ratio m e).1 ≤ Config.maxSeconds * (Binary64.ratio m e).2 := by
        cases s with
        | true =>
            rw [(Binary64.ratio_eq_zero_iff m e).mpr (sign rfl)]
            exact Nat.zero_le _
        | false => simpa [Config.isSpan, Binary64.isFinite, Binary64.isNegative,
            Binary64.atMost] using bounded
      have short : roundDiv ((Binary64.ratio m e).1 * Duration.second) (Binary64.ratio m e).2 ≤
          Config.maxSeconds * Duration.second := by
        refine roundDiv_le pos ?_
        calc (Binary64.ratio m e).1 * Duration.second
            ≤ Config.maxSeconds * (Binary64.ratio m e).2 * Duration.second :=
              Nat.mul_le_mul_right _ most
          _ = Config.maxSeconds * Duration.second * (Binary64.ratio m e).2 :=
              Nat.mul_right_comm _ _ _
      have inside : roundDiv ((Binary64.ratio m e).1 * Duration.second) (Binary64.ratio m e).2 <
          Duration.bound := Nat.lt_of_le_of_lt short (by decide)
      have unsigned : (s && m != 0) = false := by
        cases s with
        | true => simp [sign rfl]
        | false => rfl
      refine ⟨⟨roundDiv ((Binary64.ratio m e).1 * Duration.second) (Binary64.ratio m e).2⟩,
        ?_, short, ?_⟩
      · simp [Duration.ofSeconds, unsigned, inside]
      · rw [roundDiv_eq_zero_iff pos]
        by_cases zero : m = 0
        · simp [zero, Binary64.isZero, (Binary64.ratio_eq_zero_iff 0 e).mpr rfl]
        · have positive : s = false := Bool.eq_false_iff.mpr fun negative => zero (sign negative)
          simp [positive, zero, Binary64.isZero, Binary64.IsSliver]

/-- A sliver lies between nothing and a day. -/
theorem Config.isSpan_of_isSliver {x : Binary64} (sliver : x.IsSliver) :
    Config.isSpan x = true ∧ x.isZero = false := by
  match x with
  | .finite false m e =>
      obtain ⟨positive, small⟩ := sliver
      have most : (Binary64.ratio m e).1 ≤ Config.maxSeconds * (Binary64.ratio m e).2 := by
        have whole : (Binary64.ratio m e).1 ≤ (Binary64.ratio m e).1 * Duration.second :=
          Nat.le_mul_of_pos_right _ (by decide)
        have many : (Binary64.ratio m e).2 ≤ Config.maxSeconds * (Binary64.ratio m e).2 :=
          Nat.le_mul_of_pos_left _ (by decide)
        omega
      constructor
      · simpa [Config.isSpan, Binary64.isFinite, Binary64.isNegative, Binary64.atMost] using most
      · simpa [Binary64.isZero] using positive

/-! ### Arguments -/

namespace Checker

/-- A number of seconds that is a timeout is positive and at most a day. -/
theorem of_timeoutOfSeconds {x : Binary64} {t : Duration} (taken : timeoutOfSeconds x = .ok t) :
    Duration.ofSeconds x = .ok t ∧ 0 < t.nanos ∧ t.nanos ≤ maxTimeout.nanos := by
  unfold timeoutOfSeconds at taken
  split at taken
  · cases taken
  · rename_i d come
    split at taken
    · cases taken
    · rename_i positive
      split at taken
      · cases taken
      · rename_i short
        cases taken
        have positive : t.nanos ≠ 0 := by simpa using positive
        exact ⟨come, Nat.pos_of_ne_zero positive, Nat.le_of_not_lt short⟩

/-- A number that a setting may be is refused as an argument exactly if it comes to no time. -/
theorem timeoutOfSeconds_of_isSpan {x : Binary64} (bounded : Config.isSpan x = true) :
    (∃ e, timeoutOfSeconds x = .error e) ↔ x.isZero = true ∨ x.IsSliver := by
  obtain ⟨d, come, short, none⟩ := Duration.ofSeconds_of_isSpan bounded
  have bound : ¬ maxTimeout.nanos < d.nanos := Nat.not_lt.mpr short
  rw [← none]
  by_cases zero : d.nanos = 0
  · simp [timeoutOfSeconds, come, zero]
  · simp [timeoutOfSeconds, come, zero, bound]

/-- The timeout of a service is that of its argument, which is positive and at most a day, or else
the default. -/
theorem of_timeoutOf {s : Service} {default t : Duration} (given : timeoutOf s default = .ok t) :
    (s.argument? "timeout" = none ∧ t = default) ∨
      s.argument? "timeout" ≠ none ∧ 0 < t.nanos ∧ t.nanos ≤ maxTimeout.nanos := by
  unfold timeoutOf at given
  cases argument : s.argument? "timeout" with
  | none =>
      rw [argument] at given
      cases given
      exact .inl ⟨rfl, rfl⟩
  | some value =>
      rw [argument] at given
      have read : readTimeout value = .ok t := mapError_eq_ok.mp given
      refine .inr ⟨by simp, ?_⟩
      unfold readTimeout at read
      split at read
      · cases read
      · exact (of_timeoutOfSeconds read).2

/-! ### Checks -/

/-- The checks of a factory have the timeouts of their services. -/
def Factory.Timed (f : Factory) : Prop :=
  ∀ s d checker, f s d = .ok checker → timeoutOf s d = .ok checker.timeout

def Registry.Timed (registry : Registry) : Prop :=
  ∀ name entry, registry.find? name = some entry → entry.factory.Timed

theorem Registry.Timed.empty : Registry.empty.Timed := by
  intro name entry found
  cases found

theorem Registry.Timed.register {registry : Registry} (timed : registry.Timed) (kind : Kind)
    {f : Factory} (new : f.Timed) : (registry.register kind f).Timed := by
  intro name entry found
  rw [Registry.find?_register] at found
  split at found
  · cases found
    exact new
  · exact timed name entry found

theorem HttpCheck.timed (scheme : Url.Scheme) :
    Factory.Timed fun s d => .http <$> HttpCheck.ofService scheme s d := by
  intro s d checker built
  obtain ⟨c, made, rfl⟩ := map_eq_ok.mp built
  obtain ⟨target, -, made⟩ := bind_eq_ok.mp made
  obtain ⟨port, -, made⟩ := bind_eq_ok.mp made
  obtain ⟨timeout, given, made⟩ := bind_eq_ok.mp made
  obtain ⟨url, -, made⟩ := bind_eq_ok.mp made
  cases made
  exact given

theorem PortCheck.timed : Factory.Timed fun s d => .port <$> PortCheck.ofService s d := by
  intro s d checker built
  obtain ⟨c, made, rfl⟩ := map_eq_ok.mp built
  unfold PortCheck.ofService at made
  dsimp only at made
  split at made
  · obtain ⟨value, -, made⟩ := bind_eq_ok.mp made
    obtain ⟨port, -, made⟩ := bind_eq_ok.mp made
    obtain ⟨timeout, given, made⟩ := bind_eq_ok.mp made
    cases made
    exact given
  · cases made

theorem SshCheck.timed : Factory.Timed fun s d => .ssh <$> SshCheck.ofService s d := by
  intro s d checker built
  obtain ⟨c, made, rfl⟩ := map_eq_ok.mp built
  unfold SshCheck.ofService at made
  dsimp only at made
  split at made
  all_goals
    obtain ⟨port, -, made⟩ := bind_eq_ok.mp made
    obtain ⟨timeout, given, made⟩ := bind_eq_ok.mp made
    cases made
    exact given

/-- The checks of all kinds that every installation knows have the timeouts of their services. -/
theorem Registry.timed_builtin : Registry.builtin.Timed :=
  .register (.register (.register (.register .empty _ (HttpCheck.timed _)) _ (HttpCheck.timed _)) _
    PortCheck.timed) _ SshCheck.timed

/-- No factory of a timed registry changes the timeout that its service asks for. -/
theorem Registry.Timed.timeout {registry : Registry} (timed : registry.Timed) {s : Service}
    {default : Duration} {checker : Checker} (built : registry.build s default = .ok checker) :
    timeoutOf s default = .ok checker.timeout := by
  unfold Registry.build at built
  split at built
  · cases built
  · rename_i entry found
    split at built
    · cases built
    · split at built
      · cases built
      · exact timed s.kind entry found s default checker built

end Checker

/-! ### Settings -/

namespace Config

theorem checkSpan_eq_ok {setting : String} {x : Binary64} {u : Unit} :
    checkSpan setting x = .ok u ↔ isSpan x = true := by
  unfold checkSpan
  cases isSpan x with
  | true => simp
  | false => simp

/-- The settings that the program can run with. -/
theorem validate_eq_ok {c : Config} : c.validate = .ok () ↔
    (c.monitor.checkInterval ≠ 0 ∧ c.monitor.checkInterval ≤ maxSeconds) ∧
    c.monitor.maxWorkers ≠ 0 ∧
      isSpan c.monitor.timeout = true ∧ isSpan c.monitor.retryDelay = true ∧
      isSpan c.events.retryBackoff = true ∧ c.monitor.timeout.isZero = false ∧
      c.events.maxPending ≠ some 0 := by
  simp only [validate, ite_throw_bind_eq_ok, ite_throw_eq_ok, bind_eq_ok, checkSpan_eq_ok]
  simp [pure, Except.pure]

/-- Of valid settings with another timeout, those are valid whose timeout is a span of time, and not
zero. -/
theorem validate_setTimeout {c : Config} (valid : c.validate = .ok ()) (x : Binary64) :
    { c with monitor := { c.monitor with timeout := x } }.validate = .ok () ↔
      isSpan x = true ∧ x.isZero = false := by
  obtain ⟨interval, workers, -, delay, backoff, -, pending⟩ := validate_eq_ok.mp valid
  rw [validate_eq_ok]
  constructor
  · rintro ⟨-, -, bounded, -, -, positive, -⟩
    exact ⟨bounded, positive⟩
  · rintro ⟨bounded, positive⟩
    exact ⟨interval, workers, bounded, delay, backoff, positive, pending⟩

/-- With a valid timeout as the default, the timeout of a check is at most a day. It is none at all
exactly if the default is a sliver and the service has no timeout of its own. -/
theorem timeout_of_build {x : Binary64} (bounded : isSpan x = true) (positive : x.isZero = false)
    {default : Duration} (come : Duration.ofSeconds x = .ok default) {s : Service}
    {checker : Checker} (built : Checker.Registry.builtin.build s default = .ok checker) :
    checker.timeout.nanos ≤ Checker.maxTimeout.nanos ∧
      (checker.timeout.nanos = 0 ↔ s.argument? "timeout" = none ∧ x.IsSliver) := by
  obtain ⟨d, come', short, none⟩ := Duration.ofSeconds_of_isSpan bounded
  rw [come] at come'
  cases come'
  rcases Checker.of_timeoutOf (Checker.Registry.timed_builtin.timeout built) with
    ⟨absent, same⟩ | ⟨given, more, less⟩
  · rw [same]
    refine ⟨short, none.trans ?_⟩
    simp [positive, absent]
  · refine ⟨less, ?_⟩
    constructor
    · intro zero
      omega
    · rintro ⟨absent, -⟩
      exact absurd absent given

/-- With valid settings every span of time is one, and no check may take longer than a day. A check
that is set up has no time at all exactly if the timeout of the settings is a sliver and the service
has none of its own; and the timeouts that are valid as a setting but refused as an argument are the
slivers. -/
theorem timeouts_of_validate {c : Config} (valid : c.validate = .ok ()) :
    (∃ timeout pause backoff, c.monitor.defaultTimeout = .ok timeout ∧ c.monitor.pause = .ok pause ∧
        c.events.backoff = .ok backoff ∧
        ∀ s checker, Checker.Registry.builtin.build s timeout = .ok checker →
          checker.timeout.nanos ≤ Checker.maxTimeout.nanos ∧
          (checker.timeout.nanos = 0 ↔ s.argument? "timeout" = none ∧ c.monitor.timeout.IsSliver)) ∧
      ∀ x, { c with monitor := { c.monitor with timeout := x } }.validate = .ok () ∧
          (∃ e, Checker.timeoutOfSeconds x = .error e) ↔ x.IsSliver := by
  obtain ⟨-, -, bounded, delay, wait, positive, -⟩ := validate_eq_ok.mp valid
  constructor
  · obtain ⟨timeout, come, -⟩ := Duration.ofSeconds_of_isSpan bounded
    obtain ⟨pause, paused, -⟩ := Duration.ofSeconds_of_isSpan delay
    obtain ⟨backoff, waited, -⟩ := Duration.ofSeconds_of_isSpan wait
    refine ⟨timeout, pause, backoff, come, paused, waited, ?_⟩
    intro s checker built
    exact timeout_of_build bounded positive come built
  · intro x
    rw [validate_setTimeout valid]
    constructor
    · rintro ⟨⟨span, some⟩, refused⟩
      rcases (Checker.timeoutOfSeconds_of_isSpan span).mp refused with none | sliver
      · rw [some] at none
        cases none
      · exact sliver
    · intro sliver
      obtain ⟨span, some⟩ := isSpan_of_isSliver sliver
      exact ⟨⟨span, some⟩, (Checker.timeoutOfSeconds_of_isSpan span).mpr (.inr sliver)⟩

/-- A service to be checked over SSH, with nothing said on how. -/
def plainSsh : Service := { (default : Service) with host := "router", kind := "ssh" }

theorem timeouts_of_default :
    (default : Config).validate = .ok () ∧ ∃ timeout checker,
      (default : Config).monitor.defaultTimeout = .ok timeout ∧
        Checker.Registry.builtin.build plainSsh timeout = .ok checker ∧
        checker.timeout.nanos ≠ 0 := by
  have valid : (default : Config).validate = .ok () := validate_eq_ok.mpr (by decide +kernel)
  obtain ⟨⟨timeout, -, -, come, -, -, checks⟩, -⟩ := timeouts_of_validate valid
  have built : ∃ checker, Checker.Registry.builtin.build plainSsh (.ofSecs 10) = .ok checker :=
    ⟨.ssh ⟨⟨plainSsh.address, 22⟩, .ofSecs 10⟩, by rfl⟩
  have ten : timeout = .ofSecs 10 := by
    have settled : (default : Config).monitor.defaultTimeout = .ok (.ofSecs 10) := by rfl
    exact Except.ok.inj (come.symm.trans settled)
  subst ten
  obtain ⟨checker, built⟩ := built
  refine ⟨valid, _, checker, come, built, ?_⟩
  intro none
  have sliver := ((checks plainSsh checker built).2.mp none).2
  revert sliver
  decide +kernel

def picosecond : Config :=
  { (default : Config) with
    monitor := { (default : Config.Monitor) with timeout := .ofDecimal false 1 (-12) } }

/-- Settings that are valid leave a check no time at all, with a number that is no timeout as an
argument. -/
theorem valid_settings_leave_no_time :
    picosecond.validate = .ok () ∧ picosecond.monitor.timeout = .ofDecimal false 1 (-12) ∧
      picosecond.monitor.defaultTimeout = .ok ⟨0⟩ ∧
      Checker.Registry.builtin.build plainSsh ⟨0⟩ = .ok (.ssh ⟨⟨plainSsh.address, 22⟩, ⟨0⟩⟩) ∧
      Checker.timeoutOfSeconds (.ofDecimal false 1 (-12)) = .error .zero :=
  ⟨validate_eq_ok.mpr (by decide +kernel), rfl, by rfl, by rfl, by rfl⟩

end Config

end Vigil
