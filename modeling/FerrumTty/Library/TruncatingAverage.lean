import Mathlib.Algebra.Order.Ring.Nat
import Mathlib.Dynamics.FixedPoints.Basic
import Mathlib.Tactic.Ring

/-!
# Truncating averages

A running average over natural numbers weighs its value against a new sample and drops the
fraction. It stays between the bounds of its samples. Under one sample that is repeated it comes
to rest: at the sample when it starts above, and less than the weight short of it when it starts
below, because the dropped fraction holds it back.
-/

namespace FerrumTty.TruncatingAverage

set_option autoImplicit false

/-- The value counts `inertia` times, the sample once. -/
def average (inertia value sample : Nat) : Nat := (value * inertia + sample) / (inertia + 1)

variable {inertia value sample : Nat}

theorem average_le {high : Nat} (valueBelow : value ≤ high) (sampleBelow : sample ≤ high) :
    average inertia value sample ≤ high := by
  apply Nat.div_le_of_le_mul
  calc value * inertia + sample ≤ high * inertia + high :=
        Nat.add_le_add (Nat.mul_le_mul_right inertia valueBelow) sampleBelow
    _ = (inertia + 1) * high := by ring

theorem le_average {low : Nat} (valueAbove : low ≤ value) (sampleAbove : low ≤ sample) :
    low ≤ average inertia value sample := by
  apply (Nat.le_div_iff_mul_le (Nat.succ_pos inertia)).mpr
  calc low * (inertia + 1) = low * inertia + low := by ring
    _ ≤ value * inertia + sample :=
        Nat.add_le_add (Nat.mul_le_mul_right inertia valueAbove) sampleAbove

theorem rests_iff :
    average inertia value sample = value ↔ value ≤ sample ∧ sample ≤ value + inertia := by
  have next : value * (inertia + 1) = value * inertia + value := by ring
  rw [average, Nat.div_eq_iff (Nat.succ_pos inertia), next]
  omega

theorem average_lt (above : sample < value) : average inertia value sample < value := by
  have falls : average inertia value sample ≤ value := average_le (Nat.le_refl value) above.le
  apply lt_of_le_of_ne falls
  intro rests
  exact absurd (rests_iff.mp rests).1 (Nat.not_le.mpr above)

/-- A sample that is repeated brings the average to rest. -/
theorem settles (inertia value sample : Nat) :
    ∃ count, Function.IsFixedPt (average inertia · sample)
      ((average inertia · sample)^[count] value) := by
  -- The distance to the sample falls with every step that does not rest.
  generalize measured : (value - sample) + (sample - value) = distance
  induction distance using Nat.strong_induction_on generalizing value with
  | h distance induction =>
      by_cases rests : average inertia value sample = value
      · exact ⟨0, rests⟩
      · have nearer : (average inertia value sample - sample) +
            (sample - average inertia value sample) < distance := by
          rcases Nat.lt_or_ge sample value with above | below
          · have falls : average inertia value sample < value := average_lt above
            have stays : sample ≤ average inertia value sample := le_average above.le le_rfl
            omega
          · have rises : value ≤ average inertia value sample := le_average le_rfl below
            have stays : average inertia value sample ≤ sample := average_le below le_rfl
            omega
        obtain ⟨count, settled⟩ := induction _ nearer (average inertia value sample) rfl
        exact ⟨count + 1, settled⟩

end FerrumTty.TruncatingAverage
