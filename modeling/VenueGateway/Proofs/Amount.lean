import Mathlib.Algebra.Order.Field.Rat
import Mathlib.Tactic.Linarith
import VenueGateway.Amount

namespace VenueGateway.Amount

theorem epsilon_pos : (0 : Rat) < epsilon := by
  change (0 : Rat) < 1 / 100000000
  norm_num

theorem isPositive_iff (a : Rat) : isPositive a = true ↔ 0 < a := by
  unfold isPositive
  exact decide_eq_true_iff

theorem isPositive_eq_false_iff (a : Rat) : isPositive a = false ↔ a ≤ 0 := by
  rw [← Bool.not_eq_true, isPositive_iff, not_lt]

theorem atLeastZero_of_pos {a : Rat} (h : 0 < a) : atLeastZero a = a := if_pos h

theorem atLeastZero_of_nonpos {a : Rat} (h : a ≤ 0) : atLeastZero a = 0 := if_neg (not_lt.mpr h)

theorem atLeastZero_nonneg (a : Rat) : 0 ≤ atLeastZero a := by
  rcases lt_or_ge 0 a with h | h
  · rw [atLeastZero_of_pos h]
    exact h.le
  · rw [atLeastZero_of_nonpos h]

theorem le_atLeastZero (a : Rat) : a ≤ atLeastZero a := by
  rcases lt_or_ge 0 a with h | h
  · rw [atLeastZero_of_pos h]
  · rw [atLeastZero_of_nonpos h]
    exact h

end VenueGateway.Amount
