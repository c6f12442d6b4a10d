import Mathlib
import ResourceHealth.Command.Bar
import ResourceHealth.Proofs.Binary64.Monotone

/-!
# How much of a bar is filled

A bar can be drawn for every number: what is filled never exceeds its width, nothing is filled
for NaN and for what is not above zero, and all of it from a hundred on.  In between more is
not shown as less, since the quotient, the product, the rounding to an integer and the cut to a
counter all keep the order of numbers without a minus sign.  A minus sign passes through all
four up to the cut, which takes zero for it.

Main results:

- Theorems `Binary64.round_le_round` and `Binary64.toCount_le_toCount`: rounding to an integer
  and cutting to a counter keep order.
- Theorem `Bar.filled_of_le_zero`: nothing is filled for what is not above zero.
- Theorem `Bar.filled_le_filled`: more is not shown as less.
- Theorem `Bar.drawn_of_any_share`: the bar of any number.
-/

namespace ResourceHealth

namespace Binary64

variable {x y : Binary64} {r q : Fin (infinityRank + 1)}

/-! ## Rounding and cutting -/

/-- Rounding to an integer keeps the sign. -/
theorem exists_round_eq (negative : Bool) (r : Fin (infinityRank + 1)) :
    ∃ rank, (signed negative r).round = signed negative rank := by
  unfold round
  split
  · cases ‹_›
  · rename_i heq
    cases heq
    split
    · exact ⟨r, rfl⟩
    · exact ⟨_, rfl⟩

/-- Rounding to an integer keeps order. -/
theorem round_le_round (h : signed false r ≤ signed false q) :
    (signed false r).round ≤ (signed false q).round := by
  have hrank := signed_false_le_iff.mp h
  by_cases hr : r.val = infinityRank
  · have hq : q = r := Fin.ext (by omega)
    rw [hq, round, if_pos hr]
    exact signed_false_le_iff.mpr (Nat.le_refl _)
  by_cases hq : q.val = infinityRank
  · simp only [round, if_neg hr, if_pos hq]
    refine signed_false_le_iff.mpr ?_
    omega
  · simp only [round, if_neg hr, if_neg hq]
    refine ofRatio_false_le Nat.one_pos Nat.one_pos ?_
    rw [Nat.mul_one, Nat.mul_one]
    exact Nat.mul_le_mul_right _ (divideRounding_mono .away (scaled_le_scaled h))

/-- A double converts to a counter at most, however large it is. -/
theorem toCount_le_greatest (x : Binary64) : x.toCount ≤ Counter.greatest := by
  unfold toCount
  split
  · exact Nat.zero_le _
  · exact Nat.zero_le _
  · split
    · exact Nat.le_refl _
    · exact Nat.min_le_right _ _

/-- Cutting to a counter keeps order. -/
theorem toCount_le_toCount (h : signed false r ≤ signed false q) :
    (signed false r).toCount ≤ (signed false q).toCount := by
  have hrank := signed_false_le_iff.mp h
  by_cases hq : q.val = infinityRank
  · have hgreatest : (signed false q).toCount = Counter.greatest := if_pos hq
    rw [hgreatest]
    exact toCount_le_greatest _
  · have hr : r.val ≠ infinityRank := by omega
    have hwhole := Nat.div_le_div_right (c := unitsPerOne) (scaled_le_scaled h)
    simp only [toCount, if_neg hq, if_neg hr]
    omega

/-- Rounding and then converting preserves the order of doubles without a sign. -/
theorem toCount_round_le (h : signed false r ≤ signed false q) :
    (signed false r).round.toCount ≤ (signed false q).round.toCount := by
  have hround := round_le_round h
  obtain ⟨rank, hr⟩ := exists_round_eq false r
  obtain ⟨rank', hq⟩ := exists_round_eq false q
  rw [hr, hq] at hround ⊢
  exact toCount_le_toCount hround

/-- The cut takes zero for a number with a minus sign. -/
theorem toCount_round_of_minus (r : Fin (infinityRank + 1)) :
    (signed true r).round.toCount = 0 := by
  obtain ⟨rank, hround⟩ := exists_round_eq true r
  rw [hround]
  rfl

/-! ## Signs -/

namespace IsMagnitude

/-- Dividing by what is at least one keeps a minus sign. -/
theorem exists_minus_div (hy : y.IsMagnitude) (hone : 1 ≤ y) (r : Fin (infinityRank + 1)) :
    ∃ rank, signed true r / y = signed true rank := by
  obtain ⟨q, hq⟩ := hy
  have hpos := (unitsPerOne_le_scaled hone).1
  change ∃ rank, Binary64.div (signed true r) (signed false q) = signed true rank
  simp only [Binary64.div, Nat.ne_of_lt hq, Nat.ne_of_gt hpos, if_false]
  split
  · exact ⟨r, rfl⟩
  · exact ⟨_, rfl⟩

/-- So does multiplying by it. -/
theorem exists_minus_mul (hy : y.IsMagnitude) (hone : 1 ≤ y) (r : Fin (infinityRank + 1)) :
    ∃ rank, signed true r * y = signed true rank := by
  obtain ⟨q, hq⟩ := hy
  have hpos := (unitsPerOne_le_scaled hone).1
  change ∃ rank, Binary64.mul (signed true r) (signed false q) = signed true rank
  simp only [Binary64.mul, Nat.ne_of_lt hq, Nat.ne_of_gt hpos, or_false]
  split
  · rename_i hr
    rw [if_neg (by rw [hr]; decide)]
    exact ⟨_, rfl⟩
  · exact ⟨_, rfl⟩

/-- A product of magnitudes has no minus sign. -/
theorem exists_mul_eq (hx : x.IsMagnitude) (hy : y.IsMagnitude) :
    ∃ rank, x * y = signed false rank := by
  obtain ⟨r, hr⟩ := hx
  obtain ⟨q, hq⟩ := hy
  exact ⟨_, mul_eq_ofRatio hr hq⟩

end IsMagnitude

/-- What is not above zero has a minus sign or is zero. -/
theorem le_zero_cases (h : x ≤ 0) : x = 0 ∨ ∃ rank, x = signed true rank := by
  cases x with
  | nan => exact absurd h (not_nan_le 0)
  | signed negative rank =>
    cases negative with
    | true => exact Or.inr ⟨rank, rfl⟩
    | false =>
      rw [zero_eq] at h ⊢
      have hrank : rank.val ≤ 0 := signed_false_le_iff.mp h
      exact Or.inl (congrArg (signed false) (Fin.ext (Nat.le_zero.mp hrank)))

/-- What is above zero has no minus sign. -/
theorem exists_eq_of_not_le_zero (hx : x ≠ nan) (h : ¬ x ≤ 0) :
    ∃ rank, x = signed false rank := by
  cases x with
  | nan => exact absurd rfl hx
  | signed negative rank =>
    cases negative with
    | false => exact ⟨rank, rfl⟩
    | true =>
      refine absurd (le_iff.mpr ⟨_, 0, rfl, ?_, ?_⟩) h
      · rw [zero_eq]
        rfl
      · simp

end Binary64

/-! ## Bars -/

namespace Bar

variable {share other : Binary64}

/-- A bar fills no more cells than it has. -/
theorem filled_le_width (share : Binary64) : filled share ≤ width :=
  Nat.min_le_right _ _

theorem one_le_hundred : (1 : Binary64) ≤ 100 :=
  Binary64.one_le_ofNat (by decide)

theorem isMagnitude_width : (Binary64.ofNat width).IsMagnitude :=
  Binary64.isMagnitude_ofNat (by decide)

/-- Nothing is filled for what is not above zero. -/
theorem filled_of_le_zero (h : share ≤ 0) : filled share = 0 := by
  rcases Binary64.le_zero_cases h with rfl | ⟨rank, rfl⟩
  · decide +kernel
  · obtain ⟨quotient, hquotient⟩ :=
      Binary64.isMagnitude_hundred.exists_minus_div one_le_hundred rank
    obtain ⟨product, hproduct⟩ :=
      isMagnitude_width.exists_minus_mul (Binary64.one_le_ofNat (by decide)) quotient
    rw [filled, hquotient, hproduct, Binary64.toCount_round_of_minus]
    rfl

/-- More is not shown as less. -/
theorem filled_le_filled (h : share ≤ other) : filled share ≤ filled other := by
  by_cases hzero : share ≤ 0
  · rw [filled_of_le_zero hzero]
    exact Nat.zero_le _
  have hother : ¬ other ≤ 0 := fun hle => hzero (Binary64.le_trans h hle)
  obtain ⟨r, rfl⟩ :=
    Binary64.exists_eq_of_not_le_zero (Binary64.ne_nan_of_le_left h) hzero
  obtain ⟨q, rfl⟩ :=
    Binary64.exists_eq_of_not_le_zero (Binary64.ne_nan_of_le_right h) hother
  have hrank := Binary64.signed_false_le_iff.mp h
  rcases Nat.lt_or_ge q.val infinityRank with hq | hq
  · -- both shares are finite, and so are their quotients
    have hshare : (Binary64.signed false r).IsMagnitude := ⟨r, by omega⟩
    have hfinite : (Binary64.signed false q).IsMagnitude := ⟨q, hq⟩
    have hquotient := hshare.div_le_div_right hfinite Binary64.isMagnitude_hundred h one_le_hundred
    have hleft := hshare.div Binary64.isMagnitude_hundred one_le_hundred
    have hright := hfinite.div Binary64.isMagnitude_hundred one_le_hundred
    have hproduct := hleft.mul_le_mul_right hright isMagnitude_width hquotient
    obtain ⟨rank, hrank⟩ := hleft.exists_mul_eq isMagnitude_width
    obtain ⟨rank', hrank'⟩ := hright.exists_mul_eq isMagnitude_width
    have hcount := Binary64.toCount_round_le (hrank ▸ hrank' ▸ hproduct)
    rw [filled, filled, hrank, hrank']
    omega
  · have hinfinity : q = ⟨infinityRank, by decide⟩ :=
      Fin.ext (Nat.le_antisymm (Nat.lt_succ_iff.mp q.isLt) hq)
    have hfull : filled (.signed false ⟨infinityRank, by decide⟩) = width := by decide +kernel
    rw [hinfinity, hfull]
    exact filled_le_width _

/-- All of it is filled from a hundred on. -/
theorem filled_of_hundred_le (h : 100 ≤ share) : filled share = width := by
  have hfull : filled 100 = width := by decide +kernel
  have hle := filled_le_filled h
  rw [hfull] at hle
  exact Nat.le_antisymm (filled_le_width share) hle

/-- A multiple of five fills as many places as it has fives. -/
theorem filled_of_fives : ∀ fives ≤ width, filled (Binary64.ofNat (5 * fives)) = fives := by
  decide +kernel

/-- The bar of any number, NaN and infinities included, and of any level: a bracket, the symbol
of the level so many times, as many dots as are missing to twenty, and a bracket, so always
twenty-two characters.  Nothing is filled for NaN and for what is not above zero, all is filled
from a hundred on, a multiple of five in between fills as many places as it has fives, and more
is not shown as less. -/
theorem drawn_of_any_share :
    (∀ share level, ∃ dots,
      filled share + dots = 20 ∧
        draw share level = '[' :: (List.replicate (filled share) (symbol level) ++
          List.replicate dots '.' ++ [']']) ∧
        (draw share level).length = 22) ∧
      filled .nan = 0 ∧ (∀ share, share ≤ 0 → filled share = 0) ∧
      (∀ share, 100 ≤ share → filled share = 20) ∧
      (∀ fives ≤ 20, filled (Binary64.ofNat (5 * fives)) = fives) ∧
      ∀ share other, share ≤ other → filled share ≤ filled other := by
  refine ⟨fun share level => ?_, by decide, fun share => filled_of_le_zero,
    fun share => filled_of_hundred_le, filled_of_fives, fun share other => filled_le_filled⟩
  exact ⟨width - filled share, Nat.add_sub_of_le (filled_le_width share), rfl,
    length_draw share level⟩

end Bar

end ResourceHealth
