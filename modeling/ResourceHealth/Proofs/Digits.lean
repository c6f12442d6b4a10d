import Mathlib
import ResourceHealth.Counter

/-!
# Decimal digits

Digits are written from the greatest place on, and reading them gives the number back.
Zeros in front do not count, and those behind are factors of ten.

Main definitions:

- `Counter.Literal`: a word that stands for a counter.

Main results:

- Theorem `Counter.ofDigits_toDigits`: the digits of a number stand for it.
- Theorem `Counter.ofDigits_append`: digits behind others.
- Theorem `Counter.head?_toDigits_ne`: no number but zero is written with a zero in front.
- Theorem `Counter.read?_eq_some_iff`: exactly the literals are read.
-/

namespace ResourceHealth

namespace Counter

/-- Reading digits, as the library does it. -/
theorem ofDigits_eq_ofDigitChars (digits : List Char) :
    ofDigits digits = Nat.ofDigitChars 10 digits 0 := by
  simp only [ofDigits, Nat.ofDigitChars, Nat.mul_comm]

/-- The digits of a number stand for it. -/
@[simp]
theorem ofDigits_toDigits (n : Nat) : ofDigits (Nat.toDigits 10 n) = n := by
  rw [ofDigits_eq_ofDigitChars, Nat.ofDigitChars_ten_toDigits]

/-- Digits behind others. -/
theorem ofDigits_append (first second : List Char) :
    ofDigits (first ++ second) = ofDigits first * 10 ^ second.length + ofDigits second := by
  simp only [ofDigits_eq_ofDigitChars]
  rw [Nat.ofDigitChars_append, Nat.ofDigitChars_eq_ofDigitChars_zero, Nat.mul_comm]

/-- A row of zeros reads as zero. -/
@[simp]
theorem ofDigits_replicate_zero (count : Nat) : ofDigits (List.replicate count '0') = 0 := by
  rw [ofDigits_eq_ofDigitChars, Nat.ofDigitChars_replicate_zero, Nat.mul_zero]

/-- Zeros in front do not count. -/
theorem ofDigits_zeros_append (count : Nat) (digits : List Char) :
    ofDigits (List.replicate count '0' ++ digits) = ofDigits digits := by
  rw [ofDigits_append, ofDigits_replicate_zero, Nat.zero_mul, Nat.zero_add]

theorem ofDigits_zero_cons (digits : List Char) : ofDigits ('0' :: digits) = ofDigits digits :=
  ofDigits_zeros_append 1 digits

/-- Zeros behind are factors of ten. -/
theorem ofDigits_append_zeros (digits : List Char) (count : Nat) :
    ofDigits (digits ++ List.replicate count '0') = ofDigits digits * 10 ^ count := by
  rw [ofDigits_append, ofDigits_replicate_zero, List.length_replicate, Nat.add_zero]

theorem isDigit_of_mem_toDigits {n : Nat} {c : Char} (h : c ∈ Nat.toDigits 10 n) :
    c.isDigit = true :=
  Nat.isDigit_of_mem_toDigits (by decide) (by decide) h

/-- No number but zero is written with a zero in front. -/
theorem head?_toDigits_ne {n : Nat} (hn : n ≠ 0) : (Nat.toDigits 10 n).head? ≠ some '0' := by
  induction n using Nat.strongRecOn with
  | ind n ih =>
    rcases Nat.lt_or_ge n 10 with hlt | hge
    · rw [Nat.toDigits_of_lt_base hlt]
      simpa using hn
    · rw [Nat.toDigits_of_base_le (by decide) hge,
        List.head?_append_of_ne_nil _ Nat.toDigits_ne_nil]
      exact ih (n / 10) (by omega) (by omega)

/-- A number has as many digits as it needs. -/
theorem lt_pow_length_toDigits (n : Nat) : n < 10 ^ (Nat.toDigits 10 n).length :=
  (Nat.length_toDigits_le_iff (by decide) Nat.length_toDigits_pos).mp (Nat.le_refl _)

/-! ## Literals -/

theorem limit_eq : limit = 2 ^ 64 :=
  Nat.pow_eq

/-- A word that stands for a counter: decimal digits, at least one, behind at most one plus
sign, whose number has no more than 64 bits. -/
def Literal (word : List Char) (n : Nat) : Prop :=
  ∃ digits, (word = digits ∨ word = '+' :: digits) ∧ digits ≠ [] ∧
    (∀ c ∈ digits, c.isDigit = true) ∧ Nat.ofDigitChars 10 digits 0 = n ∧ n < 2 ^ 64

/-- A word is its digits, or a plus sign and its digits. -/
theorem eq_or_eq_plus_withoutPlus (word : List Char) :
    word = withoutPlus word ∨ word = '+' :: withoutPlus word := by
  unfold withoutPlus
  split
  · exact Or.inr rfl
  · exact Or.inl rfl

/-- A plus sign is no digit, so none is taken away from digits. -/
theorem withoutPlus_eq_self {digits : List Char} (h : ∀ c ∈ digits, c.isDigit = true) :
    withoutPlus digits = digits := by
  unfold withoutPlus
  split
  · exact absurd (h '+' List.mem_cons_self) (by decide)
  · rfl

/-- Exactly the literals are read. -/
theorem read?_eq_some_iff {word : List Char} {n : Nat} :
    read? word = some n ↔ Literal word n := by
  constructor
  · intro h
    simp only [read?, Option.ite_none_right_eq_some, Option.some.injEq] at h
    obtain ⟨⟨hne, hdigits, hlt⟩, rfl⟩ := h
    refine ⟨withoutPlus word, eq_or_eq_plus_withoutPlus word, hne, List.all_eq_true.mp hdigits,
      (ofDigits_eq_ofDigitChars _).symm, ?_⟩
    rwa [limit_eq] at hlt
  · rintro ⟨digits, hword, hne, hdigits, rfl, hlt⟩
    have hwithout : withoutPlus word = digits := by
      rcases hword with rfl | rfl
      · exact withoutPlus_eq_self hdigits
      · rfl
    rw [← ofDigits_eq_ofDigitChars, ← limit_eq] at hlt
    rw [read?, hwithout, if_pos ⟨hne, List.all_eq_true.mpr hdigits, hlt⟩,
      ofDigits_eq_ofDigitChars]

/-- A literal stands for one counter. -/
theorem Literal.unique {word : List Char} {n m : Nat} (hn : Literal word n)
    (hm : Literal word m) : n = m := by
  rw [← read?_eq_some_iff] at hn hm
  exact Option.some.inj (hn.symm.trans hm)

/-- A word reads as no counter exactly where it is a literal of none. -/
theorem read?_eq_none_iff {word : List Char} :
    read? word = none ↔ ∀ n, ¬ Literal word n := by
  simp only [Option.eq_none_iff_forall_ne_some, ne_eq, read?_eq_some_iff]

end Counter

end ResourceHealth
