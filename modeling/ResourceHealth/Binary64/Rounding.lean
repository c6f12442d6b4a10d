import ResourceHealth.Binary64.Basic

/-!
# Rounding to binary64

Every inexact result of this library is one rounding of an exact quotient of two
natural numbers, to the nearest number and on a tie to the one whose rank is
even.  The quotient is measured in units of `2 ^ (-1074)`; the numbers above
`2 ^ 52` units are spaced by a power of two, which is the power by which the
quotient is scaled down before its integer part is taken.

Main definitions:

- `divideToEven`: an integer quotient, to nearest, ties to even.
- `Binary64.nearestRank`: the rank that a quotient rounds to.
- `Binary64.ofRatio`: a signed quotient as a number.

Main results:

- Theorem `divideRounding_mono`: rounding a quotient keeps order.
- Theorem `Binary64.nearestRank_mono`: so does rounding to a rank.
-/

namespace ResourceHealth

/-- Which of two equally near candidates is taken. -/
inductive Tie where
  /-- The even one. -/
  | toEven
  /-- The one of greater magnitude. -/
  | away
deriving DecidableEq

/-- The integer nearest to `numerator / denominator`; `tie` decides at a half. -/
def divideRounding (tie : Tie) (numerator denominator : Nat) : Nat :=
  let quotient := numerator / denominator
  let twice := 2 * (numerator % denominator)
  if twice < denominator then quotient
  else if denominator < twice then quotient + 1
  else match tie with
    | .away => quotient + 1
    | .toEven => if quotient % 2 = 0 then quotient else quotient + 1

/-- The integer nearest to `numerator / denominator`, a half going to the even one. -/
abbrev divideToEven (numerator denominator : Nat) : Nat :=
  divideRounding .toEven numerator denominator

/-- Rounding moves a quotient by less than one. -/
theorem le_divideRounding (tie : Tie) (n d : Nat) : n / d ≤ divideRounding tie n d := by
  unfold divideRounding
  cases tie <;> grind

/-- Rounding a quotient moves it up by one at most, however ties are settled. -/
theorem divideRounding_le (tie : Tie) (n d : Nat) : divideRounding tie n d ≤ n / d + 1 := by
  unfold divideRounding
  cases tie <;> grind

/-- Rounding a quotient keeps order. -/
theorem divideRounding_mono (tie : Tie) {n n' d : Nat} (h : n ≤ n') :
    divideRounding tie n d ≤ divideRounding tie n' d := by
  rcases Nat.lt_or_ge (n / d) (n' / d) with hlt | hge
  · exact Nat.le_trans (divideRounding_le tie n d)
      (Nat.le_trans hlt (le_divideRounding tie n' d))
  · have heq : n / d = n' / d := Nat.le_antisymm (Nat.div_le_div_right h) hge
    have hmod : n % d ≤ n' % d := by
      have h1 := Nat.div_add_mod n d
      have h2 := Nat.div_add_mod n' d
      rw [heq] at h1
      omega
    unfold divideRounding
    cases tie <;> simp only [heq] <;> grind

namespace Binary64

/-- How far a quotient of integer part `whole` is scaled down, as a power of two, so that
its integer part has at most 53 bits. -/
def scaleOf (whole : Nat) : Nat :=
  Nat.log2 whole - 52

/-- The rank nearest to `numerator / denominator` units of `2 ^ (-1074)`.  It may exceed the
rank of infinity. -/
def nearestRank (numerator denominator : Nat) : Nat :=
  let scale := scaleOf (numerator / denominator)
  scale * Nat.pow 2 52 + divideToEven numerator (denominator * Nat.pow 2 scale)

/-- The rounded quotient has 53 bits, or less when nothing is scaled down. -/
theorem le_divideToEven_scaleOf {n d : Nat} (hs : 0 < scaleOf (n / d)) :
    Nat.pow 2 52 ≤ divideToEven n (d * Nat.pow 2 (scaleOf (n / d))) := by
  have hlog : 52 < Nat.log2 (n / d) := by unfold scaleOf at hs; omega
  have hne : n / d ≠ 0 := by
    intro h0
    rw [h0] at hlog
    simp at hlog
  have hpow : 2 ^ (scaleOf (n / d) + 52) ≤ n / d := by
    have : scaleOf (n / d) + 52 = Nat.log2 (n / d) := by unfold scaleOf; omega
    rw [this]
    exact Nat.log2_self_le hne
  simp only [Nat.pow_eq]
  refine Nat.le_trans ?_ (le_divideRounding .toEven n (d * 2 ^ scaleOf (n / d)))
  rw [← Nat.div_div_eq_div_mul, Nat.le_div_iff_mul_le (Nat.two_pow_pos _), ← Nat.pow_add,
    Nat.add_comm 52]
  exact hpow

/-- At the scale of a quotient its rounded significand has 53 bits, or is the next power of two. -/
theorem divideToEven_scaleOf_le (n d : Nat) :
    divideToEven n (d * Nat.pow 2 (scaleOf (n / d))) ≤ Nat.pow 2 53 := by
  simp only [Nat.pow_eq]
  refine Nat.le_trans (divideRounding_le .toEven n (d * 2 ^ scaleOf (n / d))) ?_
  rw [← Nat.div_div_eq_div_mul, Nat.succ_le_iff, Nat.div_lt_iff_lt_mul (Nat.two_pow_pos _),
    ← Nat.pow_add]
  refine Nat.lt_of_lt_of_le (Nat.lt_log2_self (n := n / d)) ?_
  exact Nat.pow_le_pow_right (by decide) (by unfold scaleOf; omega)

/-- A larger number is written at the same scale or a larger one. -/
theorem scaleOf_mono {a b : Nat} (h : a ≤ b) : scaleOf a ≤ scaleOf b := by
  unfold scaleOf
  have : Nat.log2 a ≤ Nat.log2 b := by
    rcases Nat.eq_zero_or_pos a with h0 | hpos
    · simp [h0]
    · refine (Nat.le_log2 (by omega)).mpr ?_
      exact Nat.le_trans (Nat.log2_self_le (by omega)) h
  omega

/-- Rounding quotients of one denominator keeps order. -/
theorem nearestRank_mono {n n' : Nat} (d : Nat) (h : n ≤ n') :
    nearestRank n d ≤ nearestRank n' d := by
  have hwhole : n / d ≤ n' / d := Nat.div_le_div_right h
  unfold nearestRank
  rcases Nat.lt_or_ge (scaleOf (n / d)) (scaleOf (n' / d)) with hlt | hge
  · have hup := divideToEven_scaleOf_le n d
    have hlow := le_divideToEven_scaleOf (n := n') (d := d) (by omega)
    simp only [Nat.pow_eq] at hup hlow ⊢
    omega
  · have heq : scaleOf (n / d) = scaleOf (n' / d) := Nat.le_antisymm (scaleOf_mono hwhole) hge
    simp only [heq]
    exact Nat.add_le_add_left (divideRounding_mono .toEven h) _

/-- The number nearest to `numerator / denominator` units of `2 ^ (-1074)`, with the given
sign.  What is too large for a finite number is infinite. -/
def ofRatio (negative : Bool) (numerator denominator : Nat) : Binary64 :=
  signed negative
    ⟨min (nearestRank numerator denominator) infinityRank,
      Nat.lt_succ_of_le (Nat.min_le_right _ _)⟩

/-- The number nearest to a natural number. -/
def ofNat (n : Nat) : Binary64 :=
  ofRatio false (n * unitsPerOne) 1

/-- The number nearest to an integer. -/
def ofInt (i : Int) : Binary64 :=
  ofRatio (decide (i < 0)) (i.natAbs * unitsPerOne) 1

instance (n : Nat) : OfNat Binary64 n := ⟨ofNat n⟩

instance : Neg Binary64 := ⟨neg⟩

end Binary64

end ResourceHealth
