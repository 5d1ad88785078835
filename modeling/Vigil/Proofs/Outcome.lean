/-!
What comes of steps that may fail: they succeed exactly if each of them does.
-/

namespace Vigil

variable {ε ε' α β : Type} {x : Except ε α} {b : β}

/-- A chain succeeds if each part does. -/
theorem bind_eq_ok {f : α → Except ε β} : (x >>= f) = .ok b ↔ ∃ a, x = .ok a ∧ f a = .ok b := by
  cases x with
  | error e =>
      constructor
      · intro done
        cases done
      · rintro ⟨a, made, -⟩
        cases made
  | ok a =>
      constructor
      · intro done
        exact ⟨a, rfl, done⟩
      · rintro ⟨a, made, done⟩
        cases made
        exact done

theorem map_eq_ok {f : α → β} : f <$> x = .ok b ↔ ∃ a, x = .ok a ∧ f a = b := by
  cases x with
  | error e =>
      constructor
      · intro done
        cases done
      · rintro ⟨a, made, -⟩
        cases made
  | ok a =>
      constructor
      · intro done
        cases done
        exact ⟨a, rfl, rfl⟩
      · rintro ⟨a, made, rfl⟩
        cases made
        rfl

/-- What stands behind a complaint is only reached without it. -/
theorem ite_throw_eq_ok {p : Prop} [Decidable p] {e : ε} {next : Except ε β} :
    (if p then throw e else next) = .ok b ↔ ¬ p ∧ next = .ok b := by
  by_cases h : p
  · rw [if_pos h]
    constructor
    · intro done
      cases done
    · rintro ⟨none, -⟩
      exact absurd h none
  · rw [if_neg h]
    exact ⟨fun done => ⟨h, done⟩, And.right⟩

/-- Steps that a complaint is followed by do not matter. -/
theorem ite_throw_bind_eq_ok {p : Prop} [Decidable p] {e : ε} {f : α → Except ε β}
    {next : Except ε β} :
    (if p then throw e >>= f else next) = .ok b ↔ ¬ p ∧ next = .ok b :=
  ite_throw_eq_ok

/-- Another wording of the failure makes nothing succeed. -/
theorem mapError_eq_ok {f : ε → ε'} {a : α} : x.mapError f = .ok a ↔ x = .ok a := by
  cases x with
  | error e =>
      constructor
      · intro done
        cases done
      · intro done
        cases done
  | ok a =>
      constructor
      · intro done
        cases done
        rfl
      · rintro ⟨⟩
        rfl

end Vigil
