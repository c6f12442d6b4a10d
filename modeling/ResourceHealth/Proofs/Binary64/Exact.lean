import Mathlib
import ResourceHealth.Proofs.Binary64.Nearest

/-!
# Whole numbers that are exact

A number has 53 bits, so that every whole number up to `2 ^ 53` is one and the conversion of
such a count rounds nothing.  What remains of a quotient of two of them is a single rounding,
that of the exact quotient.

Main results:

- Theorem `Binary64.exists_ofNat_eq`: the conversion of a small count is exact.
- Theorem `Binary64.ofNat_div_ofNat`: a quotient of small counts is rounded once.
-/

namespace ResourceHealth

namespace Binary64

/-- A small count is brought to 53 bits by a power of two. -/
theorem exists_shift {n : Nat} (hpos : 0 < n) (hle : n ≤ 2 ^ 53) :
    ∃ shift ≤ 52, 2 ^ 52 ≤ n * 2 ^ shift ∧ n * 2 ^ shift ≤ 2 ^ 53 := by
  rcases Nat.lt_or_eq_of_le hle with hlt | rfl
  · have hbits : n.log2 < 53 := (Nat.log2_lt (Nat.ne_of_gt hpos)).mpr hlt
    refine ⟨52 - n.log2, Nat.sub_le _ _, ?_, ?_⟩
    · calc 2 ^ 52 = 2 ^ n.log2 * 2 ^ (52 - n.log2) := by rw [← Nat.pow_add]; congr 1; omega
        _ ≤ n * 2 ^ (52 - n.log2) :=
          Nat.mul_le_mul_right _ (Nat.log2_self_le (Nat.ne_of_gt hpos))
    · calc n * 2 ^ (52 - n.log2)
          ≤ 2 ^ (n.log2 + 1) * 2 ^ (52 - n.log2) :=
            Nat.mul_le_mul_right _ (Nat.le_of_lt Nat.lt_log2_self)
        _ = 2 ^ 53 := by rw [← Nat.pow_add]; congr 1; omega
  · exact ⟨0, by decide, by decide, by decide⟩

/-- A small count is the magnitude of a finite number. -/
theorem exists_scaled_eq {n : Nat} (hle : n ≤ 2 ^ 53) :
    ∃ rank, rank < infinityRank ∧ scaled rank = n * unitsPerOne := by
  rcases Nat.eq_zero_or_pos n with rfl | hpos
  · exact ⟨0, by decide, (Nat.zero_mul unitsPerOne).symm⟩
  · obtain ⟨shift, hshift, hlow, hhigh⟩ := exists_shift hpos hle
    refine ⟨(1074 - shift) * 2 ^ 52 + n * 2 ^ shift, ?_, ?_⟩
    · simp only [infinityRank, Nat.pow_eq]
      omega
    · have hunits : 2 ^ shift * 2 ^ (1074 - shift) = unitsPerOne := by
        rw [← Nat.pow_add, Nat.add_sub_cancel' (Nat.le_trans hshift (by decide))]
        decide +kernel
      rw [scaled_rank hhigh (Or.inr hlow), Nat.mul_assoc, hunits]

/-- The conversion of a small count is exact. -/
theorem exists_ofNat_eq {n : Nat} (hle : n ≤ 2 ^ 53) :
    ∃ rank : Fin (infinityRank + 1), rank.val < infinityRank ∧
      ofNat n = signed false rank ∧ scaled rank.val = n * unitsPerOne := by
  obtain ⟨rank, hfinite, hscaled⟩ := exists_scaled_eq hle
  have hexact := ofRatio_scaled ⟨rank, Nat.lt_succ_of_lt hfinite⟩
  rw [hscaled] at hexact
  exact ⟨⟨rank, Nat.lt_succ_of_lt hfinite⟩, hfinite, hexact, hscaled⟩

/-- A quotient of small counts is rounded once. -/
theorem ofNat_div_ofNat {part whole : Nat} (hpart : part ≤ 2 ^ 53) (hwhole : whole ≤ 2 ^ 53)
    (hpos : 0 < whole) :
    ofNat part / ofNat whole = ofRatio false (part * unitsPerOne) whole := by
  obtain ⟨r, hr, hpartEq, hscaled⟩ := exists_ofNat_eq hpart
  obtain ⟨q, hq, hwholeEq, hscaled'⟩ := exists_ofNat_eq hwhole
  have hrank : 0 < q.val := by
    have hone := one_le_ofNat hpos
    rw [hwholeEq] at hone
    exact (IsMagnitude.unitsPerOne_le_scaled hone).1
  rw [hpartEq, hwholeEq, IsMagnitude.div_eq_ofRatio hr hq hrank, hscaled, hscaled',
    ofRatio_mul_right false _ _ unitsPerOne_pos]

end Binary64

end ResourceHealth
