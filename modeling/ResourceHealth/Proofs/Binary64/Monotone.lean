import Mathlib
import ResourceHealth.Proofs.Binary64.Order

/-!
# Rounded arithmetic keeps order

A quotient is rounded by its value and not by the fraction in which it is written, so
the results for any two quotients are in the order of the exact quotients.  What is
known of exact quotients and products of finite numbers without a minus sign is
therefore known of the rounded ones, and the bounds need no estimate of the error.

Main definitions:

- `Binary64.IsMagnitude`: a finite number without a minus sign.

Main results:

- Theorem `Binary64.nearestRank_le_nearestRank`: the greater quotient has the greater rank.
- Theorem `Binary64.nearestRank_scaled`: a number is rounded to itself.
- Theorem `Binary64.IsMagnitude.div_le_one`: a part of a whole is at most one.
- Theorem `Binary64.IsMagnitude.mul_le_right`: a product with such a part is at most the
  other factor.
- Theorems `Binary64.IsMagnitude.div_le_div_right` and `Binary64.IsMagnitude.mul_le_mul_right`:
  quotients and products by one number keep order.
-/

namespace ResourceHealth

/-! ## The value that is rounded -/

/-- Rounding does not see a common factor of numerator and denominator. -/
theorem divideRounding_mul_right (tie : Tie) (n d : Nat) {c : Nat} (hc : 0 < c) :
    divideRounding tie (n * c) (d * c) = divideRounding tie n d := by
  have hdiv : n * c / (d * c) = n / d := Nat.mul_div_mul_right n d hc
  have hmod : 2 * (n * c % (d * c)) = 2 * (n % d) * c := by
    rw [Nat.mul_mod_mul_right, Nat.mul_assoc]
  unfold divideRounding
  simp only [hdiv, hmod, Nat.mul_lt_mul_right hc]

namespace Binary64

/-- The nearest double of a ratio depends on the ratio only, not on how it is expanded. -/
theorem nearestRank_mul_right (n d : Nat) {c : Nat} (hc : 0 < c) :
    nearestRank (n * c) (d * c) = nearestRank n d := by
  have hdiv : n * c / (d * c) = n / d := Nat.mul_div_mul_right n d hc
  have hscale (k : Nat) : d * c * k = d * k * c := Nat.mul_right_comm d c k
  unfold nearestRank
  simp only [hdiv, hscale, divideToEven, divideRounding_mul_right _ _ _ hc]

theorem ofRatio_mul_right (negative : Bool) (n d : Nat) {c : Nat} (hc : 0 < c) :
    ofRatio negative (n * c) (d * c) = ofRatio negative n d := by
  simp only [ofRatio, nearestRank_mul_right n d hc]

/-- The greater quotient has the greater rank. -/
theorem nearestRank_le_nearestRank {n d n' d' : Nat} (hd : 0 < d) (hd' : 0 < d')
    (h : n * d' ≤ n' * d) : nearestRank n d ≤ nearestRank n' d' :=
  calc nearestRank n d
      = nearestRank (n * d') (d * d') := (nearestRank_mul_right n d hd').symm
    _ ≤ nearestRank (n' * d) (d * d') := nearestRank_mono _ h
    _ = nearestRank (n' * d) (d' * d) := by rw [Nat.mul_comm d d']
    _ = nearestRank n' d' := nearestRank_mul_right n' d' hd

/-- What is a whole number of units, with at most 53 bits after the scaling, is not moved. -/
theorem nearestRank_mul_pow {m k : Nat} (hm : m < 2 ^ 53) (hlow : k = 0 ∨ 2 ^ 52 ≤ m) :
    nearestRank (m * 2 ^ k) 1 = k * 2 ^ 52 + m := by
  have hscale : scaleOf (m * 2 ^ k) = k := by
    unfold scaleOf
    rcases hlow with rfl | hlow
    · have : m.log2 < 53 := by
        rcases Nat.eq_zero_or_pos m with rfl | hpos
        · decide
        · exact (Nat.log2_lt (Nat.ne_of_gt hpos)).mpr hm
      simp only [pow_zero, Nat.mul_one]
      omega
    · have hlog : (m * 2 ^ k).log2 = 52 + k := by
        refine (Nat.log2_eq_iff (by positivity)).mpr ⟨?_, ?_⟩
        · rw [Nat.pow_add]
          exact Nat.mul_le_mul_right _ hlow
        · rw [Nat.add_right_comm, Nat.pow_add]
          exact Nat.mul_lt_mul_of_pos_right hm (Nat.two_pow_pos k)
      omega
  have hexact : divideToEven (m * 2 ^ k) (1 * 2 ^ k) = m := by
    rw [divideToEven, divideRounding_mul_right _ _ _ (Nat.two_pow_pos k)]
    simp [divideRounding, Nat.mod_one]
  unfold nearestRank
  simp only [Nat.div_one, hscale, Nat.pow_eq, hexact]

/-- A number is rounded to itself. -/
theorem nearestRank_scaled (r : Nat) : nearestRank (scaled r) 1 = r := by
  unfold scaled
  simp only [Nat.pow_eq]
  split
  · rename_i hsmall
    simpa using nearestRank_mul_pow (m := r) (k := 0) (by omega) (Or.inl rfl)
  · rw [nearestRank_mul_pow (by omega) (Or.inr (by omega))]
    omega

/-- Different ranks have different magnitudes. -/
theorem scaled_injective : Function.Injective scaled := by
  intro r q h
  rw [← nearestRank_scaled r, h, nearestRank_scaled]

/-- The exact magnitudes are in the order of their ranks. -/
theorem scaled_mono {r q : Nat} (h : r ≤ q) : scaled r ≤ scaled q := by
  by_contra hnot
  have hrank : nearestRank (scaled q) 1 ≤ nearestRank (scaled r) 1 := nearestRank_mono 1 (by omega)
  rw [nearestRank_scaled, nearestRank_scaled] at hrank
  obtain rfl : r = q := by omega
  exact hnot (Nat.le_refl _)

/-- A positive rank stands for a positive number of units. -/
theorem scaled_pos {r : Nat} (h : 0 < r) : 0 < scaled r :=
  Nat.lt_of_lt_of_le (by decide : 0 < scaled 1) (scaled_mono h)

/-- The rank of one. -/
def oneRank : Nat := 1023 * Nat.pow 2 52

theorem scaled_oneRank : scaled oneRank = unitsPerOne := by
  decide +kernel

theorem zero_eq : (0 : Binary64) = signed false ⟨0, by decide⟩ := by
  decide +kernel

theorem one_eq : (1 : Binary64) = signed false ⟨oneRank, by decide⟩ := by
  decide +kernel

theorem one_eq_ofRatio : (1 : Binary64) = ofRatio false unitsPerOne 1 := by
  decide +kernel

theorem unitsPerOne_pos : 0 < unitsPerOne := by
  decide +kernel

/-! ## Numbers without a minus sign -/

/-- Doubles without a sign are ordered as their ranks are. -/
theorem signed_false_le_iff {r q : Fin (infinityRank + 1)} :
    signed false r ≤ signed false q ↔ r.val ≤ q.val := by
  simp [le_iff, position]

theorem scaled_le_scaled {r q : Fin (infinityRank + 1)} (h : signed false r ≤ signed false q) :
    scaled r.val ≤ scaled q.val :=
  scaled_mono (signed_false_le_iff.mp h)

/-- Rounding preserves the order of ratios. -/
theorem ofRatio_false_le {n d n' d' : Nat} (hd : 0 < d) (hd' : 0 < d') (h : n * d' ≤ n' * d) :
    ofRatio false n d ≤ ofRatio false n' d' := by
  have := nearestRank_le_nearestRank hd hd' h
  refine signed_false_le_iff.mpr ?_
  simp only
  omega

/-- A double without a sign is the rounding of the units it stands for. -/
theorem ofRatio_scaled (r : Fin (infinityRank + 1)) :
    ofRatio false (scaled r.val) 1 = signed false r := by
  have := r.isLt
  unfold ofRatio
  congr
  rw [nearestRank_scaled]
  omega

/-- A finite number without a minus sign. -/
inductive IsMagnitude : Binary64 → Prop where
  | intro (rank : Fin (infinityRank + 1)) (finite : rank.val < infinityRank) :
      IsMagnitude (signed false rank)

/-- Between finite bounds there are only finite numbers. -/
theorem isFinite_of_le_of_le {low x high : Binary64} (hlow : low.isFinite = true)
    (hhigh : high.isFinite = true) (hle : low ≤ x) (hge : x ≤ high) : x.isFinite = true := by
  cases x with
  | nan => exact absurd hge (not_nan_le _)
  | signed s r =>
    cases low with
    | nan => cases hlow
    | signed t q =>
      cases high with
      | nan => cases hhigh
      | signed t' q' =>
        simp only [isFinite, decide_eq_true_eq, le_iff, position, Option.some.injEq] at *
        grind

/-- A rounded quotient below a magnitude is a magnitude. -/
theorem isMagnitude_ofRatio {n d : Nat} {x : Binary64} (hx : x.IsMagnitude)
    (h : ofRatio false n d ≤ x) : (ofRatio false n d).IsMagnitude := by
  obtain ⟨r, hr⟩ := hx
  exact ⟨_, Nat.lt_of_le_of_lt (signed_false_le_iff.mp h) hr⟩

/-! ## Counters -/

/-- Conversion to a double preserves the order of natural numbers. -/
theorem ofNat_le_ofNat {a b : Nat} (h : a ≤ b) : ofNat a ≤ ofNat b :=
  ofRatio_false_le Nat.one_pos Nat.one_pos
    (Nat.mul_le_mul_right 1 (Nat.mul_le_mul_right unitsPerOne h))

/-- Every counter is near a finite number. -/
theorem isMagnitude_ofNat {n : Nat} (h : n < Counter.limit) : (ofNat n).IsMagnitude := by
  have hlimit : (ofNat Counter.limit).IsMagnitude := ⟨_, by decide +kernel⟩
  exact isMagnitude_ofRatio hlimit (ofNat_le_ofNat (Nat.le_of_lt h))

theorem isMagnitude_hundred : (100 : Binary64).IsMagnitude :=
  isMagnitude_ofNat (by decide)

/-- A positive natural number converts to at least one. -/
theorem one_le_ofNat {n : Nat} (h : 0 < n) : 1 ≤ ofNat n :=
  ofNat_le_ofNat h

/-! ## Quotients and products of magnitudes -/

namespace IsMagnitude

variable {x y z : Binary64}

theorem isFinite (hx : x.IsMagnitude) : x.isFinite = true := by
  obtain ⟨r, hr⟩ := hx
  simpa [Binary64.isFinite] using hr

theorem nonneg (hx : x.IsMagnitude) : 0 ≤ x := by
  obtain ⟨r, hr⟩ := hx
  rw [zero_eq]
  exact signed_false_le_iff.mpr (Nat.zero_le _)

/-- A magnitude is its own maximum with zero. -/
theorem max_zero (hx : x.IsMagnitude) : max x 0 = x := by
  obtain ⟨r, hr⟩ := hx
  rw [zero_eq]
  unfold max
  split
  · rename_i hle
    rcases hle with hnan | hle
    · cases hnan
    · have hrank : r.val ≤ 0 := signed_false_le_iff.mp hle
      exact congrArg (signed false) (Fin.ext (Nat.le_zero.mp hrank).symm)
  · rfl

/-- A quotient by a magnitude other than zero is the exact quotient rounded. -/
theorem div_eq_ofRatio {r q : Fin (infinityRank + 1)} (hr : r.val < infinityRank)
    (hq : q.val < infinityRank) (hpos : 0 < q.val) :
    signed false r / signed false q =
      ofRatio false (scaled r.val * unitsPerOne) (scaled q.val) := by
  change div _ _ = _
  simp [div, Nat.ne_of_lt hr, Nat.ne_of_lt hq, Nat.ne_of_gt hpos]

/-- The product of two finite doubles is the exact product of their units, rounded once. -/
theorem mul_eq_ofRatio {r q : Fin (infinityRank + 1)} (hr : r.val < infinityRank)
    (hq : q.val < infinityRank) :
    signed false r * signed false q = ofRatio false (scaled r.val * scaled q.val) unitsPerOne := by
  change mul _ _ = _
  simp [mul, Nat.ne_of_lt hr, Nat.ne_of_lt hq]

/-- The magnitude of a number that is at least one, against the units of one. -/
theorem unitsPerOne_le_scaled {q : Fin (infinityRank + 1)} (h : 1 ≤ signed false q) :
    0 < q.val ∧ unitsPerOne ≤ scaled q.val := by
  rw [one_eq] at h
  have hrank : oneRank ≤ q.val := signed_false_le_iff.mp h
  refine ⟨Nat.lt_of_lt_of_le (by decide) hrank, ?_⟩
  rw [← scaled_oneRank]
  exact scaled_mono hrank

theorem one : (1 : Binary64).IsMagnitude := by
  rw [one_eq]
  exact ⟨_, by decide⟩

/-- A part of a whole is at most one. -/
theorem div_le_one (hx : x.IsMagnitude) (hy : y.IsMagnitude) (hxy : x ≤ y) (hone : 1 ≤ y) :
    x / y ≤ 1 := by
  obtain ⟨r, hr⟩ := hx
  obtain ⟨q, hq⟩ := hy
  obtain ⟨hpos, -⟩ := unitsPerOne_le_scaled hone
  rw [div_eq_ofRatio hr hq hpos, one_eq_ofRatio]
  refine ofRatio_false_le (scaled_pos hpos) Nat.one_pos ?_
  rw [Nat.mul_one, Nat.mul_comm]
  exact Nat.mul_le_mul_left unitsPerOne (scaled_le_scaled hxy)

/-- Dividing by what is at least one makes nothing greater. -/
theorem div_le_self (hx : x.IsMagnitude) (hy : y.IsMagnitude) (hone : 1 ≤ y) : x / y ≤ x := by
  obtain ⟨r, hr⟩ := hx
  obtain ⟨q, hq⟩ := hy
  obtain ⟨hpos, hunits⟩ := unitsPerOne_le_scaled hone
  rw [div_eq_ofRatio hr hq hpos]
  conv_rhs => rw [← ofRatio_scaled r]
  refine ofRatio_false_le (scaled_pos hpos) Nat.one_pos ?_
  rw [Nat.mul_one]
  exact Nat.mul_le_mul_left _ hunits

/-- Quotients by one number keep order. -/
theorem div_le_div_right (hx : x.IsMagnitude) (hy : y.IsMagnitude) (hz : z.IsMagnitude)
    (hxy : x ≤ y) (hone : 1 ≤ z) : x / z ≤ y / z := by
  obtain ⟨r, hr⟩ := hx
  obtain ⟨q, hq⟩ := hy
  obtain ⟨p, hp⟩ := hz
  obtain ⟨hpos, -⟩ := unitsPerOne_le_scaled hone
  rw [div_eq_ofRatio hr hp hpos, div_eq_ofRatio hq hp hpos]
  refine ofRatio_false_le (scaled_pos hpos) (scaled_pos hpos) ?_
  exact Nat.mul_le_mul_right _ (Nat.mul_le_mul_right _ (scaled_le_scaled hxy))

/-- So do products. -/
theorem mul_le_mul_right (hx : x.IsMagnitude) (hy : y.IsMagnitude) (hz : z.IsMagnitude)
    (hxy : x ≤ y) : x * z ≤ y * z := by
  obtain ⟨r, hr⟩ := hx
  obtain ⟨q, hq⟩ := hy
  obtain ⟨p, hp⟩ := hz
  rw [mul_eq_ofRatio hr hp, mul_eq_ofRatio hq hp]
  refine ofRatio_false_le unitsPerOne_pos unitsPerOne_pos ?_
  exact Nat.mul_le_mul_right _ (Nat.mul_le_mul_right _ (scaled_le_scaled hxy))

/-- A product with what is at most one is at most the other factor. -/
theorem mul_le_right (hx : x.IsMagnitude) (hy : y.IsMagnitude) (hone : x ≤ 1) : x * y ≤ y := by
  obtain ⟨r, hr⟩ := hx
  obtain ⟨q, hq⟩ := hy
  rw [one_eq] at hone
  have hscaled : scaled r.val ≤ unitsPerOne := by
    rw [← scaled_oneRank]
    exact scaled_mono (signed_false_le_iff.mp hone)
  rw [mul_eq_ofRatio hr hq]
  conv_rhs => rw [← ofRatio_scaled q]
  refine ofRatio_false_le unitsPerOne_pos Nat.one_pos ?_
  rw [Nat.mul_one, Nat.mul_comm]
  exact Nat.mul_le_mul_left (scaled q.val) hscaled

/-- A quotient by what is at least one is a magnitude again. -/
theorem div (hx : x.IsMagnitude) (hy : y.IsMagnitude) (hone : 1 ≤ y) : (x / y).IsMagnitude := by
  have hle : x / y ≤ x := hx.div_le_self hy hone
  obtain ⟨r, hr⟩ := hx
  obtain ⟨q, hq⟩ := hy
  rw [div_eq_ofRatio hr hq (unitsPerOne_le_scaled hone).1] at hle ⊢
  exact isMagnitude_ofRatio ⟨r, hr⟩ hle

/-- So is a product with what is at most one. -/
theorem mul (hx : x.IsMagnitude) (hy : y.IsMagnitude) (hone : x ≤ 1) : (x * y).IsMagnitude := by
  have hle : x * y ≤ y := hx.mul_le_right hy hone
  obtain ⟨r, hr⟩ := hx
  obtain ⟨q, hq⟩ := hy
  rw [mul_eq_ofRatio hr hq] at hle ⊢
  exact isMagnitude_ofRatio ⟨q, hq⟩ hle

end IsMagnitude

/-! ## Operations that have a result -/

variable {x y : Binary64}

/-- A finite number less any other. -/
theorem sub_ne_nan (hx : x.isFinite = true) (hy : y ≠ nan) : x - y ≠ nan := by
  cases x with
  | nan => cases hx
  | signed s r =>
    cases y with
    | nan => exact absurd rfl hy
    | signed t q =>
      have hr : r.val ≠ infinityRank := Nat.ne_of_lt (by simpa [isFinite] using hx)
      change sub _ _ ≠ _
      unfold sub ofRatio
      simp only [if_neg hr]
      split_ifs <;> simp [zero]

/-- A product with a finite number other than zero. -/
theorem mul_ne_nan (hx : x ≠ nan) (hy : y.isFinite = true) (hpos : 0 < y) : x * y ≠ nan := by
  cases x with
  | nan => exact absurd rfl hx
  | signed s r =>
    cases y with
    | nan => cases hy
    | signed t q =>
      have hq : q.val ≠ infinityRank := Nat.ne_of_lt (by simpa [isFinite] using hy)
      have hq0 : q.val ≠ 0 := by
        rintro h0
        simp [zero_eq, lt_iff, position, h0] at hpos
      change mul _ _ ≠ _
      unfold mul ofRatio
      simp only [hq, hq0]
      split_ifs <;> grind [infinityRank]

end Binary64

end ResourceHealth
