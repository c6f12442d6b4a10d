import Mathlib
import ResourceHealth.Proofs.Binary64.Monotone

/-!
# Rounding is to the nearest number

The rank that a quotient is rounded to is the one of a nearest number, and of an even rank
if another number is as near.  The rounding only looks at the multiples of one power of two;
every other number is smaller than the one at which the spacing becomes that power, and the
quotient is not.

Distances are measured between whole numbers: the quotient `n / d` and a number of magnitude
`s` are as far apart as `n` and `s * d`, up to the factor `d`.

Main definitions:

- `distance`: how far two natural numbers are apart.
- `Binary64.IsNearest`: what an integer is as a number.

Main results:

- Theorem `divideRounding_nearest`: no integer is nearer to a quotient.
- Theorem `Binary64.scaled_nearestRank`: the number that a quotient is rounded to.
- Theorem `Binary64.nearestRank_nearest`: no number is nearer to a quotient.
- Theorem `Binary64.nearestRank_even`: a tie goes to the even rank.
- Theorem `Binary64.ofRatio_nearest`: so every finite result is a nearest number.
- Theorem `Binary64.isNearest_ofInt`: an integer of 64 bits is converted to the number nearest
  to it.
-/

namespace ResourceHealth

/-- How far two natural numbers are apart. -/
def distance (a b : Nat) : Nat :=
  a - b + (b - a)

/-! ## Integers -/

/-- A multiple of the denominator is not above the integer part, or not below the next. -/
theorem mul_le_or_le_mul (k whole d : Nat) : k * d ≤ whole * d ∨ whole * d + d ≤ k * d := by
  rcases Nat.lt_or_ge whole k with hlt | hge
  · right
    rw [← Nat.succ_mul]
    exact Nat.mul_le_mul_right d hlt
  · exact Or.inl (Nat.mul_le_mul_right d hge)

/-- Which of the two integers around a quotient is taken, and where the quotient then lies. -/
theorem divideRounding_cases (tie : Tie) (n d : Nat) :
    divideRounding tie n d = n / d ∧ 2 * (n % d) ≤ d ∨
      divideRounding tie n d = n / d + 1 ∧ d ≤ 2 * (n % d) := by
  unfold divideRounding
  cases tie <;> grind

/-- No integer is nearer to a quotient than the rounded one. -/
theorem divideRounding_nearest (tie : Tie) {n d : Nat} (hd : 0 < d) (k : Nat) :
    distance n (divideRounding tie n d * d) ≤ distance n (k * d) := by
  have hsplit : n / d * d + n % d = n := by rw [Nat.mul_comm, Nat.div_add_mod]
  have hrest := Nat.mod_lt n hd
  have hside := mul_le_or_le_mul k (n / d) d
  unfold distance
  rcases divideRounding_cases tie n d with ⟨heq, hhalf⟩ | ⟨heq, hhalf⟩
  · rw [heq]
    omega
  · rw [heq, Nat.succ_mul]
    omega

/-- If another integer is as near, the quotient is half way between the two. -/
theorem half_of_tie {tie : Tie} {n d k : Nat} (hd : 0 < d) (hne : k ≠ divideRounding tie n d)
    (htie : distance n (k * d) = distance n (divideRounding tie n d * d)) :
    2 * (n % d) = d := by
  have hsplit : n / d * d + n % d = n := by rw [Nat.mul_comm, Nat.div_add_mod]
  have hrest := Nat.mod_lt n hd
  have hside := mul_le_or_le_mul k (n / d) d
  unfold distance at htie
  rcases divideRounding_cases tie n d with ⟨heq, hle⟩ | ⟨heq, hle⟩
  · rw [heq] at hne htie
    rcases Nat.lt_or_gt_of_ne hne with hlt | hgt
    · have hbelow := Nat.mul_le_mul_right d hlt
      rw [Nat.succ_mul] at hbelow
      omega
    · have habove := Nat.mul_le_mul_right d hgt
      rw [Nat.succ_mul] at habove
      omega
  · rw [heq] at hne htie
    rw [Nat.succ_mul] at htie
    rcases Nat.lt_or_gt_of_ne hne with hlt | hgt
    · have hbelow := Nat.mul_le_mul_right d (Nat.lt_succ_iff.mp hlt)
      omega
    · have habove := Nat.mul_le_mul_right d hgt
      rw [Nat.succ_mul, Nat.succ_mul] at habove
      omega

/-- If another integer is as near, the rounded one is even. -/
theorem divideToEven_even {n d k : Nat} (hd : 0 < d) (hne : k ≠ divideToEven n d)
    (htie : distance n (k * d) = distance n (divideToEven n d * d)) :
    divideToEven n d % 2 = 0 := by
  have hhalf := half_of_tie hd hne htie
  unfold divideToEven divideRounding
  simp only [hhalf, Nat.lt_irrefl, if_false]
  split <;> omega

namespace Binary64

/-! ## Numbers -/

/-- The number that a quotient is rounded to is the rounded number of steps. -/
theorem scaled_rank {m k : Nat} (hm : m ≤ 2 ^ 53) (hlow : k = 0 ∨ 2 ^ 52 ≤ m) :
    scaled (k * 2 ^ 52 + m) = m * 2 ^ k := by
  unfold scaled
  simp only [Nat.pow_eq]
  split
  · rename_i hsmall
    have hk : k = 0 := by omega
    simp [hk]
  · rename_i hlarge
    rcases Nat.lt_or_eq_of_le hm with hlt | rfl
    · have hpow : (k * 2 ^ 52 + m) / 2 ^ 52 - 1 = k := by omega
      have hfraction : 2 ^ 52 + (k * 2 ^ 52 + m) % 2 ^ 52 = m := by omega
      rw [hpow, hfraction]
    · have hpow : (k * 2 ^ 52 + 2 ^ 53) / 2 ^ 52 - 1 = k + 1 := by omega
      have hfraction : (k * 2 ^ 52 + 2 ^ 53) % 2 ^ 52 = 0 := by omega
      rw [hpow, hfraction]
      ring

/-- The double nearest to a ratio stands for the significand rounded at the ratio's scale. -/
theorem scaled_nearestRank (n d : Nat) :
    scaled (nearestRank n d) =
      divideToEven n (d * 2 ^ scaleOf (n / d)) * 2 ^ scaleOf (n / d) := by
  have hup := divideToEven_scaleOf_le n d
  have hlow := @le_divideToEven_scaleOf n d
  simp only [Nat.pow_eq] at hup hlow
  unfold nearestRank
  simp only [Nat.pow_eq]
  exact scaled_rank hup (by omega)

/-- A number is a multiple of a power of two, or it is smaller than those that are spaced
by it. -/
theorem scaled_eq_mul_or_lt (r k : Nat) :
    (∃ m, scaled r = m * 2 ^ k) ∨ 0 < k ∧ scaled r < 2 ^ 52 * 2 ^ k := by
  unfold scaled
  simp only [Nat.pow_eq]
  split
  · rename_i hsmall
    rcases Nat.eq_zero_or_pos k with rfl | hpos
    · exact Or.inl ⟨r, by simp⟩
    · exact Or.inr ⟨hpos, Nat.lt_of_lt_of_le hsmall (Nat.le_mul_of_pos_right _ (Nat.two_pow_pos k))⟩
  · rcases Nat.lt_or_ge (r / 2 ^ 52 - 1) k with hlt | hge
    · refine Or.inr ⟨by omega, ?_⟩
      calc (2 ^ 52 + r % 2 ^ 52) * 2 ^ (r / 2 ^ 52 - 1)
          < 2 ^ 53 * 2 ^ (r / 2 ^ 52 - 1) :=
            Nat.mul_lt_mul_of_pos_right (by omega) (Nat.two_pow_pos _)
        _ = 2 ^ 52 * 2 ^ (r / 2 ^ 52 - 1 + 1) := by ring
        _ ≤ 2 ^ 52 * 2 ^ k := Nat.mul_le_mul_left _ (Nat.pow_le_pow_right (by decide) hlt)
    · refine Or.inl ⟨(2 ^ 52 + r % 2 ^ 52) * 2 ^ (r / 2 ^ 52 - 1 - k), ?_⟩
      rw [Nat.mul_assoc, ← Nat.pow_add, Nat.sub_add_cancel hge]

/-- A quotient is not below the numbers whose spacing is the one by which it is rounded. -/
theorem le_of_scaleOf_pos {n d : Nat} (hpos : 0 < scaleOf (n / d)) :
    2 ^ 52 * (d * 2 ^ scaleOf (n / d)) ≤ n := by
  have hlog : scaleOf (n / d) + 52 = Nat.log2 (n / d) := by
    unfold scaleOf at hpos ⊢
    omega
  have hne : n / d ≠ 0 := by
    intro hzero
    simp [hzero] at hlog
  calc 2 ^ 52 * (d * 2 ^ scaleOf (n / d))
      = d * 2 ^ (scaleOf (n / d) + 52) := by ring
    _ = d * 2 ^ Nat.log2 (n / d) := by rw [hlog]
    _ ≤ d * (n / d) := Nat.mul_le_mul_left d (Nat.log2_self_le hne)
    _ ≤ n := Nat.mul_div_le n d

/-- Another number is another multiple of the step by which a quotient is rounded, or it is
farther away than the rounded one. -/
theorem eq_mul_or_distance_lt {n d : Nat} (hd : 0 < d) (r : Nat) :
    (∃ m, scaled r = m * 2 ^ scaleOf (n / d)) ∨
      distance n (scaled (nearestRank n d) * d) < distance n (scaled r * d) := by
  rcases scaled_eq_mul_or_lt r (scaleOf (n / d)) with hmultiple | ⟨hpos, hlt⟩
  · exact Or.inl hmultiple
  · right
    have hlow := le_of_scaleOf_pos hpos
    have hstep : 0 < d * 2 ^ scaleOf (n / d) := Nat.mul_pos hd (Nat.two_pow_pos _)
    have hnear : distance n
          (divideToEven n (d * 2 ^ scaleOf (n / d)) * (d * 2 ^ scaleOf (n / d))) ≤
        distance n (2 ^ 52 * (d * 2 ^ scaleOf (n / d))) :=
      divideRounding_nearest .toEven hstep (2 ^ 52)
    have hbelow : scaled r * d < 2 ^ 52 * (d * 2 ^ scaleOf (n / d)) := by
      rw [Nat.mul_comm d, ← Nat.mul_assoc]
      exact Nat.mul_lt_mul_of_pos_right hlt hd
    rw [scaled_nearestRank, Nat.mul_assoc, Nat.mul_comm _ d]
    unfold distance at hnear ⊢
    omega

/-- No number is nearer to a quotient than the one that it is rounded to, if there were no
greatest finite number. -/
theorem nearestRank_nearest {n d : Nat} (hd : 0 < d) (r : Nat) :
    distance n (scaled (nearestRank n d) * d) ≤ distance n (scaled r * d) := by
  rcases eq_mul_or_distance_lt (n := n) hd r with ⟨m, hm⟩ | hlt
  · have hstep : 0 < d * 2 ^ scaleOf (n / d) := Nat.mul_pos hd (Nat.two_pow_pos _)
    rw [hm, scaled_nearestRank, Nat.mul_assoc, Nat.mul_assoc, Nat.mul_comm _ d]
    exact divideRounding_nearest .toEven hstep m
  · exact Nat.le_of_lt hlt

/-- If another number is as near, the rank of the rounded one is even. -/
theorem nearestRank_even {n d r : Nat} (hd : 0 < d) (hne : r ≠ nearestRank n d)
    (htie : distance n (scaled r * d) = distance n (scaled (nearestRank n d) * d)) :
    nearestRank n d % 2 = 0 := by
  rcases eq_mul_or_distance_lt (n := n) hd r with ⟨m, hm⟩ | hlt
  · have hstep : 0 < d * 2 ^ scaleOf (n / d) := Nat.mul_pos hd (Nat.two_pow_pos _)
    have hother : m ≠ divideToEven n (d * 2 ^ scaleOf (n / d)) := by
      rintro rfl
      rw [← scaled_nearestRank] at hm
      exact hne (scaled_injective hm)
    rw [hm, scaled_nearestRank, Nat.mul_assoc, Nat.mul_assoc, Nat.mul_comm _ d] at htie
    have heven := divideToEven_even hstep hother htie
    unfold nearestRank
    simp only [Nat.pow_eq]
    omega
  · omega

/-- A quotient that is rounded to a finite number is rounded to a nearest one, with the sign
that is asked for, and to the one of even rank if another is as near. -/
theorem ofRatio_nearest {negative : Bool} {n d : Nat} (hd : 0 < d)
    (hfinite : (ofRatio negative n d).isFinite = true) :
    ∃ rank : Fin (infinityRank + 1), ofRatio negative n d = signed negative rank ∧
      ∀ other, distance n (scaled rank.val * d) ≤ distance n (scaled other * d) ∧
        (other ≠ rank.val →
          distance n (scaled other * d) = distance n (scaled rank.val * d) →
          rank.val % 2 = 0) := by
  have hlt : min (nearestRank n d) infinityRank < infinityRank := by
    simpa [ofRatio, isFinite] using hfinite
  have hrank : min (nearestRank n d) infinityRank = nearestRank n d := by omega
  refine ⟨_, rfl, fun other => ?_⟩
  simp only [hrank]
  exact ⟨nearestRank_nearest hd other, nearestRank_even hd⟩

/-! ## Integers as numbers -/

/-- What an integer is as a number: a finite number to which none is nearer, and the one with
the even encoding if another is as near. -/
structure IsNearest (x : Binary64) (value : Int) : Prop where
  isFinite : x.isFinite = true
  nearest : ∀ other : Binary64, other.isFinite = true →
    (x.scaledValue - value * unitsPerOne).natAbs ≤
      (other.scaledValue - value * unitsPerOne).natAbs
  even : ∀ other : Binary64, other.isFinite = true → other.scaledValue ≠ x.scaledValue →
    (other.scaledValue - value * unitsPerOne).natAbs =
      (x.scaledValue - value * unitsPerOne).natAbs → x.bits % 2 = 0

variable {value : Int}

/-- How far a number is from an integer of the same sign, and of the other. -/
theorem natAbs_scaledValue_sub (negative : Bool) (rank : Fin (infinityRank + 1)) :
    ((signed negative rank).scaledValue - value * unitsPerOne).natAbs =
      if negative = decide (value < 0) then distance (value.natAbs * unitsPerOne) (scaled rank)
      else value.natAbs * unitsPerOne + scaled rank := by
  generalize unitsPerOne = units
  unfold distance scaledValue
  rcases lt_or_ge value 0 with hneg | hpos
  · obtain ⟨n, rfl⟩ := Int.exists_eq_neg_ofNat (Int.le_of_lt hneg)
    simp only [hneg, decide_true, Int.natAbs_neg, Int.natAbs_natCast, Int.neg_mul]
    rw [← Int.natCast_mul]
    grind
  · obtain ⟨n, rfl⟩ := Int.eq_ofNat_of_zero_le hpos
    simp only [Int.not_lt.mpr hpos, decide_false, Int.natAbs_natCast]
    rw [← Int.natCast_mul]
    grind

/-- An integer of 64 bits is converted to the number nearest to it. -/
theorem isNearest_ofInt (hvalue : value.natAbs < Counter.limit) :
    (ofInt value).IsNearest value := by
  have hfinite : (ofInt value).isFinite = true := (isMagnitude_ofNat hvalue).isFinite
  obtain ⟨rank, hrank, hnear⟩ := ofRatio_nearest Nat.one_pos hfinite
  simp only [Nat.mul_one] at hnear
  have heq : ofInt value = signed (decide (value < 0)) rank := hrank
  -- zero is a number of either sign
  have hzero := hnear 0
  have hscaled : scaled 0 = 0 := rfl
  rw [hscaled] at hzero
  rw [heq] at hfinite ⊢
  refine ⟨hfinite, fun other hother => ?_, fun other hother hne htie => ?_⟩
  · obtain _ | ⟨negative, r⟩ := other
    · cases hother
    · rw [natAbs_scaledValue_sub, natAbs_scaledValue_sub, if_pos rfl]
      split
      · exact (hnear r.val).1
      · unfold distance at hzero ⊢
        omega
  · have hbits : (signed (decide (value < 0)) rank).bits % 2 = rank.val % 2 := by
      have hsign : signBit % 2 = 0 := by decide
      change ((if decide (value < 0) = true then signBit else 0) + rank.val) % 2 = _
      split <;> omega
    rw [hbits]
    obtain _ | ⟨negative, r⟩ := other
    · cases hother
    · rw [natAbs_scaledValue_sub, natAbs_scaledValue_sub, if_pos rfl] at htie
      split at htie
      · rename_i hsign
        refine (hnear r.val).2 (fun hsame => hne ?_) htie
        rw [hsign, Fin.ext hsame]
      · -- of the other sign only zero can be as near
        have hvanish : scaled r.val = 0 := by
          unfold distance at hzero htie
          omega
        refine hzero.2 (fun hsame => hne ?_) ?_
        · have hrankZero : scaled rank.val = 0 := by rw [← hsame, hscaled]
          simp [scaledValue, hvanish, hrankZero]
        · unfold distance at htie ⊢
          omega

end Binary64

end ResourceHealth
