import ResourceHealth.Binary64.Arithmetic

/-!
# The order of binary64 numbers

The IEEE order is a total preorder on the numbers that are not NaN.  This module
says so, and says how maxima and clamping stand to it.

Main results:

- Theorem `Binary64.max_le_max_left`: a maximum grows with its second operand.
- Theorems `Binary64.le_clamp` and `Binary64.clamp_le`: a clamped number is within bounds.
- Theorem `Binary64.clamp_le_clamp`: clamping keeps order.
-/

namespace ResourceHealth

namespace Binary64

variable {x y z low high : Binary64}

/-! ## The preorder -/

/-- A number that is not NaN is at most itself. -/
theorem le_refl (hx : x ≠ nan) : x ≤ x := by
  rcases le_total_of_ne_nan hx hx with h | h <;> exact h

/-- What is at most something is not a NaN. -/
theorem ne_nan_of_le_left (h : x ≤ y) : x ≠ nan := by
  rintro rfl
  exact not_nan_le y h

theorem ne_nan_of_le_right (h : x ≤ y) : y ≠ nan := by
  rintro rfl
  exact not_le_nan x h

/-- What is not below a number is at least that number, NaN apart. -/
theorem le_of_not_lt (hx : x ≠ nan) (hy : y ≠ nan) (h : ¬ x < y) : y ≤ x := by
  cases x with
  | nan => exact absurd rfl hx
  | signed s r =>
    cases y with
    | nan => exact absurd rfl hy
    | signed t q =>
      rw [lt_iff] at h
      refine le_iff.mpr ⟨_, _, rfl, rfl, Int.not_lt.mp fun hlt => ?_⟩
      exact h ⟨_, _, rfl, rfl, hlt⟩

/-- The two orders exclude each other when turned around. -/
theorem not_lt_of_le (h : x ≤ y) : ¬ y < x := by
  rw [le_iff] at h
  rw [lt_iff]
  grind

theorem le_of_lt (h : x < y) : x ≤ y := by
  rw [lt_iff] at h
  rw [le_iff]
  grind

theorem ne_of_lt (h : x < y) : x ≠ y := by
  rintro rfl
  rw [lt_iff] at h
  grind

/-- The strict order absorbs the other on its left. -/
theorem lt_of_le_of_lt (hxy : x ≤ y) (hyz : y < z) : x < z := by
  rw [le_iff] at hxy
  rw [lt_iff] at *
  grind

theorem lt_of_lt_of_le (hxy : x < y) (hyz : y ≤ z) : x < z := by
  rw [le_iff] at hyz
  rw [lt_iff] at *
  grind

theorem ne_nan_of_isFinite (hx : x.isFinite = true) : x ≠ nan := by
  rintro rfl
  simp [isFinite] at hx

/-! ## Maxima -/

/-- A maximum is one of its operands. -/
theorem max_eq_or (x y : Binary64) : max x y = x ∨ max x y = y := by
  unfold max
  split
  · exact Or.inr rfl
  · exact Or.inl rfl

/-- A maximum is not below its first operand either. -/
theorem le_max_left (hx : x ≠ nan) : x ≤ max x y := by
  unfold max
  split
  · rename_i h
    exact h.resolve_left hx
  · exact le_refl hx

/-- A maximum grows with its second operand. -/
theorem max_le_max_left (x : Binary64) (h : y ≤ z) : max x y ≤ max x z := by
  have hy : y ≠ nan := ne_nan_of_le_left h
  have hz : z ≠ nan := ne_nan_of_le_right h
  by_cases hxy : x = nan ∨ x ≤ y
  · have hmax : max x y = y := by simp [max, hxy]
    rw [hmax]
    exact le_trans h (le_max_right hz)
  · have hmax : max x y = x := by simp [max, hxy]
    rw [not_or] at hxy
    rw [hmax]
    unfold max
    split
    · rename_i hxz
      exact hxz.resolve_left hxy.1
    · exact le_refl hxy.1

/-! ## Clamping -/

/-- Clamping finite doubles gives a finite double. -/
theorem isFinite_clamp (hlow : low.isFinite = true) (hhigh : high.isFinite = true)
    (hx : x.isFinite = true) : (clamp low high x).isFinite = true := by
  unfold clamp
  split
  · exact hlow
  · split
    · exact hhigh
    · exact hx

/-- A clamped number is not below the lower bound. -/
theorem le_clamp (hbounds : low ≤ high) (hx : x ≠ nan) : low ≤ clamp low high x := by
  unfold clamp
  split
  · exact le_refl (ne_nan_of_le_left hbounds)
  · split
    · exact hbounds
    · rename_i hnot _
      exact le_of_not_lt hx (ne_nan_of_le_left hbounds) hnot

/-- A clamped number is not above the upper bound. -/
theorem clamp_le (hbounds : low ≤ high) (hx : x ≠ nan) : clamp low high x ≤ high := by
  unfold clamp
  split
  · exact hbounds
  · split
    · exact le_refl (ne_nan_of_le_right hbounds)
    · rename_i _ hnot
      exact le_of_not_lt (ne_nan_of_le_right hbounds) hx hnot

/-- Clamping keeps order. -/
theorem clamp_le_clamp (hbounds : low ≤ high) (h : x ≤ y) :
    clamp low high x ≤ clamp low high y := by
  have hy : y ≠ nan := ne_nan_of_le_right h
  by_cases hlow : x < low
  · have hx : clamp low high x = low := by simp [clamp, hlow]
    rw [hx]
    exact le_clamp hbounds hy
  have hylow : ¬ y < low := fun hlt => hlow (lt_of_le_of_lt h hlt)
  by_cases hhigh : high < y
  · have hyhigh : clamp low high y = high := by simp [clamp, hylow, hhigh]
    rw [hyhigh]
    exact clamp_le hbounds (ne_nan_of_le_left h)
  · have hxhigh : ¬ high < x := fun hlt => hhigh (lt_of_lt_of_le hlt h)
    rw [clamp_eq_self hlow hxhigh, clamp_eq_self hylow hhigh]
    exact h

/-! ## The bounds of a share -/

theorem isFinite_zero : (0 : Binary64).isFinite = true := by
  decide +kernel

theorem isFinite_hundred : (100 : Binary64).isFinite = true := by
  decide +kernel

theorem zero_le_hundred : (0 : Binary64) ≤ 100 := by
  decide +kernel

end Binary64

end ResourceHealth
