/-!
# Binary64 numbers

The figures of this library are IEEE 754 binary64 numbers.  A number that is not
NaN is kept as a sign and a *rank*: its place among the nonnegative numbers in
increasing order, with zero first and infinity last.  A rank is at the same time
the low 63 bits of the number's encoding, so comparing numbers is comparing
integers and encoding a number is an addition.

All NaNs are one value: nothing that this library computes or writes tells two of
them apart.

Main definitions:

- `Binary64`: the numbers.
- `Binary64.scaled`: the exact value of a rank, in units of `2 ^ (-1074)`.
- `Binary64.ofBits`, `Binary64.bits`: the 64-bit encoding.
- `x ≤ y`, `x < y`, `Binary64.equals`: the IEEE comparisons, false for NaN.

Main results:

- Theorem `Binary64.ofBits_bits`: a number is what its encoding decodes to.
- Theorem `Binary64.le_total_of_ne_nan`: two numbers that are not NaN compare.
-/

namespace ResourceHealth

/-- The rank of infinity, which is also the number of finite nonnegative numbers. -/
def infinityRank : Nat := 2047 * Nat.pow 2 52

/-- A binary64 number: NaN, or a sign and the rank of the magnitude. -/
inductive Binary64 where
  /-- The one value for all encodings of NaN. -/
  | nan
  /-- A number with the given sign; rank zero is zero and the greatest rank is infinity. -/
  | signed (negative : Bool) (rank : Fin (infinityRank + 1))
deriving DecidableEq

namespace Binary64

/-! ## Values -/

/-- How many units of `2 ^ (-1074)` make one. -/
def unitsPerOne : Nat := Nat.pow 2 1074

/-- The exact magnitude of rank `r` in units of `2 ^ (-1074)`.  Above `2 ^ 52` the low
52 bits of the rank are the fraction and the others the exponent. -/
def scaled (r : Nat) : Nat :=
  let step := Nat.pow 2 52
  if r < step then r else (step + r % step) * Nat.pow 2 (r / step - 1)

/-- Positive zero. -/
def zero : Binary64 := signed false ⟨0, by decide⟩

/-- Positive infinity. -/
def infinity : Binary64 := signed false ⟨infinityRank, by decide⟩

instance : Inhabited Binary64 := ⟨zero⟩

/-- Neither NaN nor infinite. -/
def isFinite : Binary64 → Bool
  | nan => false
  | signed _ r => r.val < infinityRank

/-- The number with the opposite sign; NaN stays NaN. -/
def neg : Binary64 → Binary64
  | nan => nan
  | signed s r => signed (!s) r

/-- The exact value in units of `2 ^ (-1074)`; meaningless for NaN and infinities. -/
def scaledValue : Binary64 → Int
  | nan => 0
  | signed s r => if s then -(scaled r.val : Int) else scaled r.val

/-! ## The 64-bit encoding -/

/-- The bit of the sign. -/
def signBit : Nat := Nat.pow 2 63

/-- Decodes a 64-bit word: the top bit is the sign, the others the rank. -/
def ofBits (word : Nat) : Binary64 :=
  let r := word % signBit
  if h : r < infinityRank + 1 then signed (decide (signBit ≤ word)) ⟨r, h⟩ else nan

/-- Encodes a number; NaN has the quiet encoding with an empty payload. -/
def bits : Binary64 → Nat
  | nan => 0x7ff8000000000000
  | signed s r => (if s then signBit else 0) + r.val

theorem bits_lt (x : Binary64) : x.bits < Nat.pow 2 64 := by
  cases x with
  | nan => decide
  | signed s r =>
    have hr := r.isLt
    cases s <;> simp [bits, signBit, infinityRank] at * <;> omega

/-- A number is what its encoding decodes to. -/
theorem ofBits_bits (x : Binary64) : ofBits x.bits = x := by
  cases x with
  | nan => decide
  | signed s r =>
    have hr := r.isLt
    have hlt : r.val < signBit := Nat.lt_of_lt_of_le hr (by decide)
    cases s with
    | false =>
      have hbits : bits (signed false r) = r.val := Nat.zero_add _
      have hmod : r.val % signBit = r.val := Nat.mod_eq_of_lt hlt
      have hnot : ¬ signBit ≤ r.val := Nat.not_le.mpr hlt
      simp only [ofBits, hbits, hmod]
      rw [dif_pos hr, decide_eq_false hnot]
    | true =>
      have hbits : bits (signed true r) = signBit + r.val := rfl
      have hmod : (signBit + r.val) % signBit = r.val := by
        rw [Nat.add_mod_left, Nat.mod_eq_of_lt hlt]
      have hle : signBit ≤ signBit + r.val := Nat.le_add_right _ _
      simp only [ofBits, hbits, hmod]
      rw [dif_pos hr, decide_eq_true hle]

/-! ## Comparison -/

/-- The place of a number on the line of all numbers; both zeros share place zero and NaN
has none. -/
def position : Binary64 → Option Int
  | nan => none
  | signed s r => some (if s then -(r.val : Int) else r.val)

/-- At most, as IEEE compares: false as soon as one side is NaN. -/
def atMost (x y : Binary64) : Bool :=
  match x.position, y.position with
  | some i, some j => decide (i ≤ j)
  | _, _ => false

/-- Less than, as IEEE compares: false as soon as one side is NaN. -/
def lessThan (x y : Binary64) : Bool :=
  match x.position, y.position with
  | some i, some j => decide (i < j)
  | _, _ => false

/-- Equal, as IEEE compares: the two zeros are equal and NaN equals nothing. -/
def equals (x y : Binary64) : Bool :=
  match x.position, y.position with
  | some i, some j => decide (i = j)
  | _, _ => false

instance : LE Binary64 := ⟨fun x y => x.atMost y = true⟩

instance : LT Binary64 := ⟨fun x y => x.lessThan y = true⟩

instance (x y : Binary64) : Decidable (x ≤ y) :=
  inferInstanceAs (Decidable (x.atMost y = true))

instance (x y : Binary64) : Decidable (x < y) :=
  inferInstanceAs (Decidable (x.lessThan y = true))

/-- One double is at most another exactly where neither is a NaN and its place in the order is not
the later one. -/
theorem le_iff {x y : Binary64} :
    x ≤ y ↔ ∃ i j, x.position = some i ∧ y.position = some j ∧ i ≤ j := by
  change x.atMost y = true ↔ _
  cases hx : x.position <;> cases hy : y.position <;> simp [atMost, hx, hy]

/-- One double is less than another exactly where neither is a NaN and its place in the order is
the earlier one. -/
theorem lt_iff {x y : Binary64} :
    x < y ↔ ∃ i j, x.position = some i ∧ y.position = some j ∧ i < j := by
  change x.lessThan y = true ↔ _
  cases hx : x.position <;> cases hy : y.position <;> simp [lessThan, hx, hy]

/-- The order of the doubles is transitive, NaNs included, since nothing holds of a NaN. -/
theorem le_trans {x y z : Binary64} (hxy : x ≤ y) (hyz : y ≤ z) : x ≤ z := by
  rw [le_iff] at *
  obtain ⟨i, j, hx, hy, hij⟩ := hxy
  obtain ⟨j', k, hy', hz, hjk⟩ := hyz
  have hj : j = j' := by rw [hy] at hy'; exact Option.some.inj hy'
  exact ⟨i, k, hx, hz, by omega⟩

/-- Two numbers that are not NaN compare in at least one direction. -/
theorem le_total_of_ne_nan {x y : Binary64} (hx : x ≠ nan) (hy : y ≠ nan) :
    x ≤ y ∨ y ≤ x := by
  cases x with
  | nan => exact absurd rfl hx
  | signed s r =>
    cases y with
    | nan => exact absurd rfl hy
    | signed t q =>
      rcases Int.le_total (if s then -(r.val : Int) else r.val)
          (if t then -(q.val : Int) else q.val) with h | h
      · exact Or.inl (le_iff.mpr ⟨_, _, rfl, rfl, h⟩)
      · exact Or.inr (le_iff.mpr ⟨_, _, rfl, rfl, h⟩)

/-- Nothing is below a number that fails `≤` from both sides unless one of them is NaN. -/
theorem not_le_nan (x : Binary64) : ¬ x ≤ nan := by
  simp [le_iff, position]

/-- A NaN is at most nothing. -/
theorem not_nan_le (x : Binary64) : ¬ nan ≤ x := by
  simp [le_iff, position]

end Binary64

end ResourceHealth
