import Mathlib
import ResourceHealth.Proofs.Binary64.Exact
import ResourceHealth.Proofs.Counter
import ResourceHealth.Proofs.Source.Range

/-!
# How full a volume is shown to be

The share in use is the exact one up to two roundings, of the quotient and of the product
with a hundred, and rounding keeps order but not strict order.  That a volume is shown as
full or as empty exactly when it is so holds because counts of bytes are far coarser than
numbers: with at most `2 ^ 53` bytes, the share of a volume that has a byte left is at most
the greatest number below one, and the share of one that has a byte in use is at least
`2 ^ (-53)`.

Main results:

- Theorem `Volume.percent_eq`: the share is a quotient rounded once, times a hundred.
- Theorems `Volume.percent_eq_zero_iff` and `Volume.percent_eq_hundred_iff`: what is empty and
  what is full is shown so, and nothing else is.
- Theorem `Volume.percent_le_percent`: the fuller volume is not shown as less full.
- Theorem `Volume.accounts_for_all_blocks`: the figures, their sum and the share.
-/

namespace ResourceHealth

namespace Volume

/-! ## Figures -/

/-- Figures of blocks that are among each other and whose sum in bytes is a counter. -/
theorem ofBlocks_eq {counts : BlockCounts} (havailable : counts.available ≤ counts.free)
    (hfree : counts.free ≤ counts.blocks)
    (hlimit : counts.blocks * counts.blockSize < Counter.limit) :
    ofBlocks counts =
      ⟨counts.blocks * counts.blockSize, (counts.blocks - counts.free) * counts.blockSize,
        counts.available * counts.blockSize⟩ := by
  have hused : (counts.blocks - counts.free) * counts.blockSize ≤
      counts.blocks * counts.blockSize := Nat.mul_le_mul_right _ (Nat.sub_le _ _)
  have hleft : counts.available * counts.blockSize ≤ counts.blocks * counts.blockSize :=
    Nat.mul_le_mul_right _ (Nat.le_trans havailable hfree)
  unfold ofBlocks
  rw [Counter.multiplyCapped_eq_mul hlimit, Counter.multiplyCapped_eq_mul (by omega),
    Counter.multiplyCapped_eq_mul (by omega)]

/-- What is used and what is available are different blocks. -/
theorem used_add_available_le {counts : BlockCounts}
    (havailable : counts.available ≤ counts.free) (hfree : counts.free ≤ counts.blocks) :
    (counts.blocks - counts.free) * counts.blockSize + counts.available * counts.blockSize ≤
      counts.blocks * counts.blockSize := by
  rw [← Nat.add_mul]
  exact Nat.mul_le_mul_right _ (by omega)

/-! ## The share in use -/

variable {volume other : Volume}

/-- A volume whose figures in use and available come to no more than `2 ^ 53` bytes. -/
def IsSmall (volume : Volume) : Prop :=
  volume.used + volume.available ≤ 2 ^ 53

/-- The exact share in use, rounded once. -/
def quotient (volume : Volume) : Binary64 :=
  Binary64.ofRatio false (volume.used * Binary64.unitsPerOne) (volume.used + volume.available)

/-- The used part is at most the whole, so their quotient is at most one. -/
theorem quotient_le_one (hpos : 0 < volume.used + volume.available) : volume.quotient ≤ 1 := by
  rw [Binary64.one_eq_ofRatio]
  refine Binary64.ofRatio_false_le hpos Nat.one_pos ?_
  rw [Nat.mul_one, Nat.mul_comm]
  exact Nat.mul_le_mul_left _ (Nat.le_add_right _ _)

theorem isMagnitude_quotient (hpos : 0 < volume.used + volume.available) :
    volume.quotient.IsMagnitude :=
  Binary64.isMagnitude_ofRatio Binary64.IsMagnitude.one (quotient_le_one hpos)

/-- The share is a quotient rounded once, times a hundred: neither the conversions of the
figures nor their sum nor the clamping change anything. -/
theorem percent_eq (hsmall : volume.IsSmall) (hpos : 0 < volume.used + volume.available) :
    volume.percent = volume.quotient * 100 := by
  have hlimit : volume.used + volume.available < Counter.limit :=
    Nat.lt_of_le_of_lt hsmall (by decide)
  have hused : volume.used ≤ 2 ^ 53 := Nat.le_trans (Nat.le_add_right _ _) hsmall
  have hquotient := isMagnitude_quotient hpos
  have hproduct := hquotient.mul Binary64.isMagnitude_hundred (quotient_le_one hpos)
  have hhundred := hquotient.mul_le_right Binary64.isMagnitude_hundred (quotient_le_one hpos)
  unfold percent
  simp only [Counter.addCapped_eq_add hlimit, Nat.ne_of_gt hpos, if_false,
    Binary64.ofNat_div_ofNat hused hsmall hpos]
  exact Binary64.clamp_eq_self (Binary64.not_lt_of_le hproduct.nonneg)
    (Binary64.not_lt_of_le hhundred)

/-- The share in use against another, by the figures multiplied crosswise. -/
theorem quotient_mul_hundred_le (hpos : 0 < volume.used + volume.available)
    (hpos' : 0 < other.used + other.available)
    (h : volume.used * (other.used + other.available) ≤
      other.used * (volume.used + volume.available)) :
    volume.quotient * 100 ≤ other.quotient * 100 := by
  have hquotient : volume.quotient ≤ other.quotient := by
    refine Binary64.ofRatio_false_le hpos hpos' ?_
    rw [Nat.mul_right_comm, Nat.mul_right_comm other.used]
    exact Nat.mul_le_mul_right _ h
  exact (isMagnitude_quotient hpos).mul_le_mul_right (isMagnitude_quotient hpos')
    Binary64.isMagnitude_hundred hquotient

/-- Nothing in use is shown as zero. -/
theorem percent_of_unused (hsmall : volume.IsSmall) (hused : volume.used = 0) :
    volume.percent = 0 := by
  rcases Nat.eq_zero_or_pos volume.available with hnone | hleft
  · simp [percent, Counter.addCapped, hused, hnone]
  · have hquotient : volume.quotient = 0 := by
      have hcancel := Binary64.ofRatio_mul_right false 0 1 hleft
      rw [Nat.zero_mul, Nat.one_mul] at hcancel
      rw [quotient, hused, Nat.zero_mul, Nat.zero_add, hcancel]
      decide +kernel
    rw [percent_eq hsmall (by omega), hquotient]
    decide +kernel

/-- A volume with the least share that is not zero: one byte of `2 ^ 53` is in use. -/
def leastUsed : Volume where
  total := 2 ^ 53
  used := 1
  available := 2 ^ 53 - 1

/-- A volume with the greatest share that is not one: one byte of `2 ^ 53` is left. -/
def leastLeft : Volume where
  total := 2 ^ 53
  used := 2 ^ 53 - 1
  available := 1

/-- What is in use is not shown as zero. -/
theorem percent_pos (hsmall : volume.IsSmall) (hused : 0 < volume.used) : 0 < volume.percent := by
  have hpos : 0 < volume.used + volume.available := by omega
  have hleast : leastUsed.quotient * 100 ≤ volume.quotient * 100 := by
    refine quotient_mul_hundred_le (by decide) hpos ?_
    unfold IsSmall at hsmall
    simp only [leastUsed]
    omega
  rw [percent_eq hsmall hpos]
  exact Binary64.lt_of_lt_of_le (by decide +kernel) hleast

/-- What has nothing left is shown as full. -/
theorem percent_of_full (hsmall : volume.IsSmall) (hused : 0 < volume.used)
    (hfull : volume.available = 0) : volume.percent = 100 := by
  have hquotient : volume.quotient = 1 := by
    have hcancel := Binary64.ofRatio_mul_right false Binary64.unitsPerOne 1 hused
    rw [Nat.one_mul, Nat.mul_comm] at hcancel
    rw [quotient, hfull, Nat.add_zero, hcancel, Binary64.one_eq_ofRatio]
  rw [percent_eq hsmall (by omega), hquotient]
  decide +kernel

/-- What is not full is not shown as full. -/
theorem percent_lt_hundred (hsmall : volume.IsSmall) (hleft : 0 < volume.available) :
    volume.percent < 100 := by
  have hpos : 0 < volume.used + volume.available := by omega
  have hgreatest : volume.quotient * 100 ≤ leastLeft.quotient * 100 := by
    refine quotient_mul_hundred_le hpos (by decide) ?_
    unfold IsSmall at hsmall
    simp only [leastLeft]
    omega
  rw [percent_eq hsmall hpos]
  exact Binary64.lt_of_le_of_lt hgreatest (by decide +kernel)

/-- With more bytes it can be: here the sum is rounded to what is in use. -/
example : (⟨2 ^ 60 + 1, 2 ^ 60, 1⟩ : Volume).percent = 100 := by decide +kernel

/-- A small volume is shown as empty exactly where nothing of it is used. -/
theorem percent_eq_zero_iff (hsmall : volume.IsSmall) : volume.percent = 0 ↔ volume.used = 0 := by
  constructor
  · intro hzero
    by_contra hused
    exact Binary64.ne_of_lt (percent_pos hsmall (Nat.pos_of_ne_zero hused)) hzero.symm
  · exact percent_of_unused hsmall

/-- A small volume is shown as full exactly where nothing of it is available. -/
theorem percent_eq_hundred_iff (hsmall : volume.IsSmall) :
    volume.percent = 100 ↔ 0 < volume.used ∧ volume.available = 0 := by
  constructor
  · intro hfull
    refine ⟨Nat.pos_of_ne_zero fun hused => ?_, Nat.eq_zero_of_not_pos fun hleft => ?_⟩
    · rw [percent_of_unused hsmall hused] at hfull
      exact absurd hfull (by decide +kernel)
    · exact Binary64.ne_of_lt (percent_lt_hundred hsmall hleft) hfull
  · rintro ⟨hused, hfull⟩
    exact percent_of_full hsmall hused hfull

/-- The fuller volume is not shown as less full. -/
theorem percent_le_percent (hsmall : volume.IsSmall) (hsmall' : other.IsSmall)
    (hused : volume.used ≤ other.used) (havailable : other.available ≤ volume.available) :
    volume.percent ≤ other.percent := by
  rcases Nat.eq_zero_or_pos other.used with hnone | hsome
  · rw [percent_of_unused hsmall (by omega), percent_of_unused hsmall' hnone]
    exact Binary64.le_refl (by decide +kernel)
  · rcases Nat.eq_zero_or_pos volume.used with hnone | hpart
    · rw [percent_of_unused hsmall hnone]
      exact Binary64.le_of_lt (percent_pos hsmall' hsome)
    · have hpos : 0 < volume.used + volume.available := by omega
      have hpos' : 0 < other.used + other.available := by omega
      rw [percent_eq hsmall hpos, percent_eq hsmall' hpos']
      refine quotient_mul_hundred_le hpos hpos' ?_
      rw [Nat.mul_add, Nat.mul_add, Nat.mul_comm volume.used]
      exact Nat.add_le_add_left (Nat.mul_le_mul hused havailable) _

/-! ## All together -/

/-- For all counts of blocks no more is used than there is.  Where no more blocks are available
than are free, no more are free than there are, and all of them in bytes are a counter, nothing
is capped: the figures are the exact products, the blocks that are not free are all but the
free ones, and what is used and what is available fit into the whole.  The share of up to
`2 ^ 53` bytes is zero exactly when nothing is in use and a hundred exactly when something is
in use and nothing is left, any other is strictly between the two, and more in use with no more
available never makes it less. -/
theorem accounts_for_all_blocks :
    (∀ counts : BlockCounts, (ofBlocks counts).used ≤ (ofBlocks counts).total) ∧
      (∀ counts : BlockCounts, counts.available ≤ counts.free → counts.free ≤ counts.blocks →
        counts.blocks * counts.blockSize < Counter.limit →
        ofBlocks counts =
            ⟨counts.blocks * counts.blockSize, (counts.blocks - counts.free) * counts.blockSize,
              counts.available * counts.blockSize⟩ ∧
          (ofBlocks counts).used + counts.free * counts.blockSize = (ofBlocks counts).total ∧
          (ofBlocks counts).used + (ofBlocks counts).available ≤ (ofBlocks counts).total) ∧
      (∀ volume : Volume, volume.IsSmall →
        (volume.percent = 0 ↔ volume.used = 0) ∧
          (0 < volume.used → 0 < volume.percent) ∧
          (volume.percent = 100 ↔ 0 < volume.used ∧ volume.available = 0) ∧
          (0 < volume.available → volume.percent < 100)) ∧
      ∀ volume other : Volume, volume.IsSmall → other.IsSmall →
        volume.used ≤ other.used → other.available ≤ volume.available →
        volume.percent ≤ other.percent := by
  refine ⟨used_le_total, fun counts havailable hfree hlimit => ?_, fun volume hsmall => ?_,
    fun volume other hsmall hsmall' => percent_le_percent hsmall hsmall'⟩
  · have hexact := ofBlocks_eq havailable hfree hlimit
    refine ⟨hexact, ?_, ?_⟩
    · rw [hexact, ← Nat.add_mul, Nat.sub_add_cancel hfree]
    · rw [hexact]
      exact used_add_available_le havailable hfree
  · exact ⟨percent_eq_zero_iff hsmall, percent_pos hsmall, percent_eq_hundred_iff hsmall,
      percent_lt_hundred hsmall⟩

end Volume

end ResourceHealth
