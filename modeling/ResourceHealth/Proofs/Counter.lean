import Mathlib
import ResourceHealth.Counter

/-!
# Sums and products of counters

A sum of counters is exact or a panic.  Added up from the left it panics exactly when the
whole sum is no counter, wherever it passes the limit.  Arithmetic that stays in range is
exact whenever the exact result is a counter.

Main results:

- Theorem `Counter.sum_eq`: the outcome of a sum.
- Theorems `Counter.addCapped_eq_add` and `Counter.multiplyCapped_eq_mul`: what is not capped.
-/

namespace ResourceHealth

namespace Counter

/-- Adding up from a counter gives the whole sum or panics; that the sum so far is a counter
carries the induction. -/
theorem foldlM_add {a : Nat} {counts : List Nat} (ha : a < limit) :
    counts.foldlM add a =
      if a + counts.sum < limit then .ok (a + counts.sum) else .error .addOverflow := by
  induction counts generalizing a with
  | nil =>
    rw [List.sum_nil, Nat.add_zero, if_pos ha]
    rfl
  | cons count rest ih =>
    rw [List.foldlM_cons, List.sum_cons, ← Nat.add_assoc]
    by_cases hstep : a + count < limit
    · have hadd : add a count = .ok (a + count) := if_pos hstep
      rw [hadd]
      exact ih hstep
    · have hadd : add a count = .error .addOverflow := if_neg hstep
      have hsum : ¬ a + count + rest.sum < limit := by omega
      rw [hadd, if_neg hsum]
      rfl

/-- Summing counters one after the other panics exactly where the exact sum is no counter. -/
theorem sum_eq (counts : List Nat) :
    sum counts = if counts.sum < limit then .ok counts.sum else .error .addOverflow := by
  have hzero : 0 < limit := by decide
  rw [sum, foldlM_add hzero, Nat.zero_add]

/-! ## Arithmetic that stays in range -/

/-- A sum that is a counter is not capped. -/
theorem addCapped_eq_add {a b : Nat} (h : a + b < limit) : addCapped a b = a + b := by
  unfold addCapped greatest
  omega

/-- A product that is a counter is not capped. -/
theorem multiplyCapped_eq_mul {a b : Nat} (h : a * b < limit) : multiplyCapped a b = a * b := by
  unfold multiplyCapped greatest
  omega

end Counter

end ResourceHealth
