import Mathlib
import ResourceHealth.Binary64.Decimal
import ResourceHealth.Proofs.Binary64.Monotone
import ResourceHealth.Proofs.Digits

/-!
# Decimals are rounded once

Reading a decimal depends on its value alone: a power of ten may be moved between its
coefficient and its exponent, and the shortcuts for decimals far out of range come to the
same as rounding them.  The decimal that is searched for to be written reads back, whichever
way the search ends.

Main results:

- Theorem `Decimal.nearestRank_shift`: a power of ten may be moved.
- Theorem `Decimal.toBinary64_eq`: a decimal is read by one rounding, however far out it is.
- Theorem `Binary64.nearestRank_shortestDecimal`: the shortest decimal of a rank reads back.
-/

namespace ResourceHealth

namespace Decimal

/-! ## The quotient that is rounded -/

/-- The rounded quotient, with the powers of ten on their sides of it. -/
theorem nearestRank_eq (d : Decimal) :
    d.nearestRank =
      Binary64.nearestRank (d.coefficient * 10 ^ d.exponent.toNat * Binary64.unitsPerOne)
        (10 ^ (-d.exponent).toNat) := by
  obtain ⟨coefficient, exponent | exponent⟩ := d
  · simp only [nearestRank, Nat.pow_eq]
    have hexponent : (-Int.ofNat exponent).toNat = 0 := by simp
    rw [hexponent, pow_zero]
    rfl
  · simp only [nearestRank, Nat.pow_eq]
    have hexponent : (Int.negSucc exponent).toNat = 0 := rfl
    rw [hexponent, pow_zero, Nat.mul_one]
    rfl

/-- The greater decimal has the greater rank. -/
theorem nearestRank_le_nearestRank {d d' : Decimal}
    (h : d.coefficient * 10 ^ d.exponent.toNat * 10 ^ (-d'.exponent).toNat ≤
      d'.coefficient * 10 ^ d'.exponent.toNat * 10 ^ (-d.exponent).toNat) :
    d.nearestRank ≤ d'.nearestRank := by
  rw [nearestRank_eq, nearestRank_eq]
  refine Binary64.nearestRank_le_nearestRank (by positivity) (by positivity) ?_
  rw [Nat.mul_right_comm, Nat.mul_right_comm _ Binary64.unitsPerOne]
  exact Nat.mul_le_mul_right _ h

/-- A power of ten may be moved between coefficient and exponent. -/
theorem nearestRank_shift (coefficient places : Nat) (exponent : Int) :
    nearestRank ⟨coefficient * 10 ^ places, exponent - places⟩ =
      nearestRank ⟨coefficient, exponent⟩ := by
  have hvalue : coefficient * 10 ^ places * 10 ^ (exponent - places).toNat *
        10 ^ (-exponent).toNat =
      coefficient * 10 ^ exponent.toNat * 10 ^ (-(exponent - places)).toNat := by
    rw [Nat.mul_assoc, Nat.mul_assoc, ← pow_add, ← pow_add, Nat.mul_assoc, ← pow_add]
    congr 2
    omega
  exact Nat.le_antisymm (nearestRank_le_nearestRank (Nat.le_of_eq hvalue))
    (nearestRank_le_nearestRank (Nat.le_of_eq hvalue.symm))

/-! ## Decimals far out of range -/

/-- A decimal with no significant digit rounds to zero. -/
theorem nearestRank_of_coefficient_eq_zero {d : Decimal} (h : d.coefficient = 0) :
    d.nearestRank = 0 := by
  have hle : d.nearestRank ≤ nearestRank ⟨0, 0⟩ := nearestRank_le_nearestRank (by simp [h])
  have hzero : nearestRank ⟨0, 0⟩ = 0 := by decide +kernel
  omega

/-- Only a decimal with a significant digit rounds to a positive double. -/
theorem nearestRank_pos {d : Decimal} (h : 0 < d.nearestRank) : d.coefficient ≠ 0 := by
  intro hzero
  rw [nearestRank_of_coefficient_eq_zero hzero] at h
  exact Nat.lt_irrefl 0 h

/-- A decimal with too many zeros behind its point is nearest to zero. -/
theorem nearestRank_of_point_lt {d : Decimal} (h : d.point < -farPlaces) :
    d.nearestRank = 0 := by
  obtain ⟨coefficient, exponent⟩ := d
  have hdigits := Counter.lt_pow_length_toDigits coefficient
  unfold point digits farPlaces at h
  simp only at h
  generalize (Nat.toDigits 10 coefficient).length = length at hdigits h
  -- below half a unit everything is rounded to zero
  have hsmall : coefficient * Binary64.unitsPerOne * 2 ≤ 10 ^ (-exponent).toNat :=
    calc coefficient * Binary64.unitsPerOne * 2
        ≤ 10 ^ length * Binary64.unitsPerOne * 2 :=
          Nat.mul_le_mul_right 2 (Nat.mul_le_mul_right _ (Nat.le_of_lt hdigits))
      _ = 10 ^ length * (Binary64.unitsPerOne * 2) := Nat.mul_assoc _ _ _
      _ ≤ 10 ^ length * 10 ^ 400 := Nat.mul_le_mul_left _ (by decide +kernel)
      _ = 10 ^ (length + 400) := (pow_add _ _ _).symm
      _ ≤ 10 ^ (-exponent).toNat := Nat.pow_le_pow_right (by decide) (by omega)
  have hexponent : exponent.toNat = 0 := by omega
  rw [nearestRank_eq]
  simp only [hexponent, pow_zero, Nat.mul_one]
  have hle : Binary64.nearestRank (coefficient * Binary64.unitsPerOne)
      (10 ^ (-exponent).toNat) ≤ Binary64.nearestRank 1 2 :=
    Binary64.nearestRank_le_nearestRank (Nat.pow_pos (by decide)) (by decide) (by omega)
  have hhalf : Binary64.nearestRank 1 2 = 0 := by decide +kernel
  omega

/-- A decimal with too many zeros before its point has no nearest finite number. -/
theorem infinityRank_le_nearestRank {d : Decimal} (hcoefficient : d.coefficient ≠ 0)
    (h : farPlaces < d.exponent) : infinityRank ≤ d.nearestRank := by
  obtain ⟨coefficient, exponent⟩ := d
  unfold farPlaces at h
  simp only at h hcoefficient
  have hone : nearestRank ⟨1, 400⟩ ≤ nearestRank ⟨coefficient, exponent⟩ := by
    refine nearestRank_le_nearestRank ?_
    have hplaces : (400 : Int).toNat ≤ exponent.toNat := Int.toNat_le_toNat (Int.le_of_lt h)
    have hfar : (10 : Nat) ^ (400 : Int).toNat ≤ 10 ^ exponent.toNat :=
      Nat.pow_le_pow_right (by decide) hplaces
    have hexponent : (-exponent).toNat = 0 := by omega
    have hnone : (-400 : Int).toNat = 0 := rfl
    simp only [hexponent, hnone, pow_zero, Nat.mul_one, Nat.one_mul]
    exact Nat.le_trans hfar (Nat.le_mul_of_pos_left _ (Nat.pos_of_ne_zero hcoefficient))
  have hinfinite : infinityRank ≤ nearestRank ⟨1, 400⟩ := by decide +kernel
  exact Nat.le_trans hinfinite hone

/-- A decimal is read by one rounding, however far out of range it is. -/
theorem toBinary64_eq (negative : Bool) (d : Decimal) :
    d.toBinary64 negative =
      .signed negative ⟨min d.nearestRank infinityRank,
        Nat.lt_succ_of_le (Nat.min_le_right _ _)⟩ := by
  unfold toBinary64
  split
  · rename_i hzero
    have hrank : d.nearestRank = 0 := by
      rcases hzero with h | h
      · exact nearestRank_of_coefficient_eq_zero h
      · exact nearestRank_of_point_lt h
    simp only [hrank, Nat.zero_min]
  · rename_i hsome
    rw [not_or] at hsome
    split
    · rename_i hfar
      have hrank := infinityRank_le_nearestRank hsome.1 hfar
      simp only [Nat.min_eq_right hrank]
    · rfl

/-- A decimal that is nearest to a finite number is read as that number. -/
theorem toBinary64_of_nearestRank {d : Decimal} {rank : Fin (infinityRank + 1)}
    (h : d.nearestRank = rank.val) (negative : Bool) :
    d.toBinary64 negative = .signed negative rank := by
  have hle := rank.isLt
  rw [toBinary64_eq]
  congr
  omega

end Decimal

namespace Binary64

/-! ## The decimal that is written -/

/-- The exact decimal expansion of a double rounds back to that double. -/
theorem nearestRank_exactDecimal (rank : Nat) : (exactDecimal rank).nearestRank = rank := by
  have hunits : finestFives * unitsPerOne = 10 ^ 1074 := by decide +kernel
  have hplaces : (-(-(finestPlace : Int))).toNat = 1074 := rfl
  have hzero : (-(finestPlace : Int)).toNat = 0 := rfl
  rw [Decimal.nearestRank_eq, exactDecimal]
  simp only [hplaces, hzero, pow_zero, Nat.mul_one]
  rw [Nat.mul_assoc, hunits]
  calc nearestRank (scaled rank * 10 ^ 1074) (10 ^ 1074)
      = nearestRank (scaled rank * 10 ^ 1074) (1 * 10 ^ 1074) := by rw [Nat.one_mul]
    _ = nearestRank (scaled rank) 1 := nearestRank_mul_right _ _ (by positivity)
    _ = rank := nearestRank_scaled rank

/-- The shortest decimal of a rank reads back. -/
theorem nearestRank_shortestDecimal (tie : Tie) (rank : Nat) :
    (shortestDecimal tie rank).nearestRank = rank := by
  unfold shortestDecimal
  cases h : (List.range' 1 enoughDigits).findSome? (shortestGrid tie rank) with
  | none => exact nearestRank_exactDecimal rank
  | some d =>
    obtain ⟨count, -, hgrid⟩ := List.exists_of_findSome?_eq_some h
    exact nearestRank_shortestGrid hgrid

end Binary64

end ResourceHealth
