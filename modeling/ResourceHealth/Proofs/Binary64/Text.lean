import Mathlib
import ResourceHealth.Binary64.Text
import ResourceHealth.Proofs.Binary64.Decimal

/-!
# The parts of a written number

A number that is written with its shortest digits and a point or an exponent is digits,
perhaps a fraction, and perhaps a power of ten.  Whatever the style, the decimal that
these parts stand for is nearest to the number that was written.

Main definitions:

- `NumberText`: the parts, and what makes them the text of no integer.
- `NumberText.chars`: the text of the parts.
- `NumberText.decimal`: the decimal that they stand for.

Main results:

- Theorem `Decimal.nearestRank_significant`: the digits that are written stand for the
  decimal.
- Theorem `NumberStyle.exists_writeRank_eq`: what is written for a magnitude has parts that
  stand for it.
-/

namespace ResourceHealth

/-! ## The digits that are written -/

namespace Decimal

/-- The digits that are not written are zeros. -/
theorem exists_digits_eq (d : Decimal) :
    ∃ zeros, d.digits = d.significant ++ List.replicate zeros '0' := by
  have hsplit : d.digits.reverse.takeWhile (· = '0') ++ d.digits.reverse.dropWhile (· = '0') =
      d.digits.reverse := List.takeWhile_append_dropWhile
  have hzeros : d.digits.reverse.takeWhile (· = '0') =
      List.replicate (d.digits.reverse.takeWhile (· = '0')).length '0' := by
    refine List.eq_replicate_of_mem fun c hc => ?_
    simpa using List.mem_takeWhile_imp hc
  refine ⟨(d.digits.reverse.takeWhile (· = '0')).length, ?_⟩
  have hreverse := congrArg List.reverse hsplit
  rw [List.reverse_append, List.reverse_reverse, hzeros, List.reverse_replicate] at hreverse
  exact hreverse.symm

/-- The significant digits of a decimal are decimal digits. -/
theorem isDigit_of_mem_significant {d : Decimal} {c : Char} (h : c ∈ d.significant) :
    c.isDigit = true := by
  obtain ⟨zeros, hdigits⟩ := d.exists_digits_eq
  refine Counter.isDigit_of_mem_toDigits (n := d.coefficient) ?_
  change c ∈ d.digits
  rw [hdigits]
  exact List.mem_append_left _ h

/-- The digits that are written stand for the coefficient but for some factors of ten. -/
theorem coefficient_eq {d : Decimal} {zeros : Nat}
    (h : d.digits = d.significant ++ List.replicate zeros '0') :
    d.coefficient = Counter.ofDigits d.significant * 10 ^ zeros := by
  calc d.coefficient = Counter.ofDigits d.digits := (Counter.ofDigits_toDigits _).symm
    _ = Counter.ofDigits d.significant * 10 ^ zeros := by
      rw [h, Counter.ofDigits_append_zeros]

theorem significant_ne_nil {d : Decimal} (h : d.coefficient ≠ 0) : d.significant ≠ [] := by
  intro hnil
  obtain ⟨zeros, hdigits⟩ := d.exists_digits_eq
  rw [coefficient_eq hdigits, hnil] at h
  exact h (Nat.zero_mul _)

/-- The significant digits of a decimal other than zero do not start with a zero. -/
theorem head?_significant_ne {d : Decimal} (h : d.coefficient ≠ 0) :
    d.significant.head? ≠ some '0' := by
  obtain ⟨zeros, hdigits⟩ := d.exists_digits_eq
  have hhead : d.digits.head? = d.significant.head? := by
    rw [hdigits, List.head?_append_of_ne_nil _ (significant_ne_nil h)]
  rw [← hhead]
  exact Counter.head?_toDigits_ne h

/-- The digits that are written stand for the decimal, with the point where it was. -/
theorem nearestRank_significant (d : Decimal) :
    nearestRank ⟨Counter.ofDigits d.significant, d.point - d.significant.length⟩ =
      d.nearestRank := by
  obtain ⟨zeros, hdigits⟩ := d.exists_digits_eq
  have hlength := congrArg List.length hdigits
  rw [List.length_append, List.length_replicate] at hlength
  have hexponent : d.point - d.significant.length = d.exponent + zeros := by
    unfold point
    omega
  have hshift := nearestRank_shift (Counter.ofDigits d.significant) zeros (d.exponent + zeros)
  rw [← coefficient_eq hdigits, Int.add_sub_cancel] at hshift
  rw [hexponent]
  exact hshift.symm

end Decimal

/-! ## Parts of a number -/

/-- The parts of a number that is written without a sign and not as an integer. -/
structure NumberText where
  /-- The digits before the point. -/
  whole : List Char
  /-- The digits behind the point; without any the point is left out. -/
  fraction : List Char
  /-- The power of ten behind the digits, if there is one. -/
  power : Option Int
  whole_ne_nil : whole ≠ []
  isDigit_whole : ∀ c ∈ whole, c.isDigit = true
  isDigit_fraction : ∀ c ∈ fraction, c.isDigit = true
  /-- No zero stands before other digits. -/
  eq_zero_of_head? : whole.head? = some '0' → whole = ['0']
  fraction_or_power : fraction ≠ [] ∨ power.isSome = true

namespace NumberText

/-- The point with the digits behind it. -/
def fractionChars (text : NumberText) : List Char :=
  if text.fraction = [] then [] else '.' :: text.fraction

/-- A fraction that is not empty is written behind a point. -/
theorem fractionChars_of_ne_nil {text : NumberText} (h : text.fraction ≠ []) :
    text.fractionChars = '.' :: text.fraction :=
  if_neg h

/-- A power of ten with its sign. -/
def signedDigits (plusSign : Bool) : Int → List Char
  | .ofNat e => (if plusSign then ['+'] else []) ++ Nat.toDigits 10 e
  | .negSucc e => '-' :: Nat.toDigits 10 (e + 1)

/-- The power of ten with the mark before it. -/
def powerChars (plusSign : Bool) (text : NumberText) : List Char :=
  match text.power with
  | none => []
  | some e => 'e' :: signedDigits plusSign e

/-- The text of the parts. -/
def chars (plusSign : Bool) (text : NumberText) : List Char :=
  text.whole ++ (text.fractionChars ++ text.powerChars plusSign)

/-- Without a power of ten there is a fraction. -/
theorem chars_of_power_eq_none {text : NumberText} (h : text.power = none) (plusSign : Bool) :
    text.chars plusSign = text.whole ++ '.' :: text.fraction := by
  have hfraction : text.fraction ≠ [] :=
    text.fraction_or_power.resolve_right (by simp [h])
  have hpower : text.powerChars plusSign = [] := by
    unfold powerChars
    rw [h]
  rw [chars, fractionChars_of_ne_nil hfraction, hpower, List.append_nil]

/-- The decimal that the parts stand for. -/
def decimal (text : NumberText) : Decimal :=
  ⟨Counter.ofDigits (text.whole ++ text.fraction),
    text.power.getD 0 - text.fraction.length⟩

/-- Digits around a point. -/
def pointed (whole fraction : List Char) (hwhole : whole ≠ [])
    (isDigit_whole : ∀ c ∈ whole, c.isDigit = true)
    (hzero : whole.head? = some '0' → whole = ['0']) (hfraction : fraction ≠ [])
    (isDigit_fraction : ∀ c ∈ fraction, c.isDigit = true) : NumberText where
  whole
  fraction
  power := none
  whole_ne_nil := hwhole
  isDigit_whole
  isDigit_fraction
  eq_zero_of_head? := hzero
  fraction_or_power := Or.inl hfraction

/-- A number with a point and no exponent is written as its two runs of digits around the point. -/
@[simp]
theorem chars_pointed {whole fraction : List Char} (hwhole isDigit_whole hzero)
    (hfraction : fraction ≠ []) (isDigit_fraction) (plusSign : Bool) :
    (pointed whole fraction hwhole isDigit_whole hzero hfraction isDigit_fraction).chars
      plusSign = whole ++ '.' :: fraction :=
  chars_of_power_eq_none rfl plusSign

/-- One digit, a fraction if there are more, and a power of ten. -/
def scientific (first : Char) (rest : List Char) (power : Int)
    (isDigit : ∀ c ∈ first :: rest, c.isDigit = true) : NumberText where
  whole := [first]
  fraction := rest
  power := some power
  whole_ne_nil := List.cons_ne_nil _ _
  isDigit_whole c hc := isDigit c (List.mem_cons.mpr (Or.inl (List.mem_singleton.mp hc)))
  isDigit_fraction c hc := isDigit c (List.mem_cons_of_mem _ hc)
  eq_zero_of_head? h := by rw [Option.some.inj h]
  fraction_or_power := Or.inr rfl

end NumberText

/-! ## Digits with a point somewhere -/

/-- Digits that stand for a rank, with the point behind the first `point` of them. -/
structure DigitsOfRank (digits : List Char) (point : Int) (rank : Nat) : Prop where
  ne_nil : digits ≠ []
  isDigit : ∀ c ∈ digits, c.isDigit = true
  head?_ne : digits.head? ≠ some '0'
  nearestRank : Decimal.nearestRank ⟨Counter.ofDigits digits, point - digits.length⟩ = rank

/-- The digits that are written for a decimal stand for its rank. -/
theorem Decimal.digitsOfRank_significant {d : Decimal} (h : 0 < d.nearestRank) :
    DigitsOfRank d.significant d.point d.nearestRank where
  ne_nil := significant_ne_nil (nearestRank_pos h)
  isDigit _ hc := isDigit_of_mem_significant hc
  head?_ne := head?_significant_ne (nearestRank_pos h)
  nearestRank := nearestRank_significant d

namespace DigitsOfRank

variable {digits : List Char} {point : Int} {rank : Nat}

/-- All digits behind the point, with `gap` zeros before them. -/
theorem exists_belowOne (h : DigitsOfRank digits point rank) (gap : Nat) (hpoint : point = -gap) :
    ∃ text : NumberText, text.power = none ∧ text.decimal.nearestRank = rank ∧
      ∀ plusSign, text.chars plusSign = '0' :: '.' :: (List.replicate gap '0' ++ digits) := by
  have hfraction : ∀ c ∈ List.replicate gap '0' ++ digits, c.isDigit = true := by
    intro c hc
    rcases List.mem_append.mp hc with hc | hc
    · rw [List.eq_of_mem_replicate hc]
      rfl
    · exact h.isDigit c hc
  refine ⟨.pointed ['0'] (List.replicate gap '0' ++ digits) (List.cons_ne_nil _ _) (by simp)
    (fun _ => rfl) (by simp [h.ne_nil]) hfraction, rfl, ?_, ?_⟩
  · have hdecimal : (⟨Counter.ofDigits (['0'] ++ (List.replicate gap '0' ++ digits)),
        (none : Option Int).getD 0 - (List.replicate gap '0' ++ digits).length⟩ : Decimal) =
        ⟨Counter.ofDigits digits, point - digits.length⟩ := by
      rw [List.singleton_append, Counter.ofDigits_zero_cons, Counter.ofDigits_zeros_append]
      simp only [List.length_append, List.length_replicate, Option.getD_none]
      congr 1
      omega
    exact (congrArg Decimal.nearestRank hdecimal).trans h.nearestRank
  · intro plusSign
    exact NumberText.chars_pointed _ _ _ _ _ plusSign

/-- The point among the digits. -/
theorem exists_inside (h : DigitsOfRank digits point rank) {count : Nat} (hpoint : point = count)
    (hpos : count ≠ 0) (hlt : count < digits.length) :
    ∃ text : NumberText, text.power = none ∧ text.decimal.nearestRank = rank ∧
      ∀ plusSign, text.chars plusSign = digits.take count ++ '.' :: digits.drop count := by
  have hhead : (digits.take count).head? = digits.head? := by
    rw [List.head?_take, if_neg hpos]
  have hrest : digits.drop count ≠ [] := by
    rw [ne_eq, List.drop_eq_nil_iff]
    omega
  refine ⟨.pointed (digits.take count) (digits.drop count) ?_
    (fun c hc => h.isDigit c (List.mem_of_mem_take hc))
    (fun hzero => absurd (hhead ▸ hzero) h.head?_ne) hrest
    (fun c hc => h.isDigit c (List.mem_of_mem_drop hc)), rfl, ?_, ?_⟩
  · simp [List.take_eq_nil_iff, hpos, h.ne_nil]
  · have hdecimal : (⟨Counter.ofDigits (digits.take count ++ digits.drop count),
        (none : Option Int).getD 0 - (digits.drop count).length⟩ : Decimal) =
        ⟨Counter.ofDigits digits, point - digits.length⟩ := by
      rw [List.take_append_drop, List.length_drop, Option.getD_none]
      congr 1
      omega
    exact (congrArg Decimal.nearestRank hdecimal).trans h.nearestRank
  · intro plusSign
    exact NumberText.chars_pointed _ _ _ _ _ plusSign

/-- All digits before the point, with `gap` zeros behind them. -/
theorem exists_whole (h : DigitsOfRank digits point rank) (gap : Nat)
    (hpoint : point = digits.length + gap) :
    ∃ text : NumberText, text.power = none ∧ text.decimal.nearestRank = rank ∧
      ∀ plusSign,
        text.chars plusSign = digits ++ List.replicate gap '0' ++ ['.', '0'] := by
  have hwhole : ∀ c ∈ digits ++ List.replicate gap '0', c.isDigit = true := by
    intro c hc
    rcases List.mem_append.mp hc with hc | hc
    · exact h.isDigit c hc
    · rw [List.eq_of_mem_replicate hc]
      rfl
  have hhead : (digits ++ List.replicate gap '0').head? = digits.head? :=
    List.head?_append_of_ne_nil _ h.ne_nil
  refine ⟨.pointed (digits ++ List.replicate gap '0') ['0'] (by simp [h.ne_nil]) hwhole
    (fun hzero => absurd (hhead ▸ hzero) h.head?_ne) (List.cons_ne_nil _ _) (by simp),
    rfl, ?_, ?_⟩
  · have hzeros : digits ++ List.replicate gap '0' ++ ['0'] =
        digits ++ List.replicate (gap + 1) '0' := by
      rw [List.append_assoc, ← List.replicate_succ']
    have hdecimal : (⟨Counter.ofDigits (digits ++ List.replicate gap '0' ++ ['0']),
        (none : Option Int).getD 0 - (['0'].length : Nat)⟩ : Decimal) =
        ⟨Counter.ofDigits digits * 10 ^ (gap + 1), (gap : Int) - (gap + 1 : Nat)⟩ := by
      rw [hzeros, Counter.ofDigits_append_zeros]
      simp only [Option.getD_none, List.length_singleton]
      congr 1
      omega
    have hgap : (gap : Int) = point - digits.length := by omega
    calc Decimal.nearestRank _
        = Decimal.nearestRank ⟨Counter.ofDigits digits * 10 ^ (gap + 1),
            (gap : Int) - (gap + 1 : Nat)⟩ := congrArg Decimal.nearestRank hdecimal
      _ = Decimal.nearestRank ⟨Counter.ofDigits digits, gap⟩ :=
          Decimal.nearestRank_shift _ _ _
      _ = rank := by
        rw [hgap]
        exact h.nearestRank
  · intro plusSign
    exact NumberText.chars_pointed _ _ _ _ _ plusSign

/-- Without an exponent: the point is before, among or behind the digits. -/
theorem exists_positionalText (h : DigitsOfRank digits point rank) :
    ∃ text : NumberText, text.power = none ∧ text.decimal.nearestRank = rank ∧
      ∀ plusSign, text.chars plusSign = positionalText true digits point := by
  cases point with
  | negSucc gap =>
    obtain ⟨text, hpower, hrank, hchars⟩ := h.exists_belowOne (gap + 1) rfl
    exact ⟨text, hpower, hrank, hchars⟩
  | ofNat count =>
    by_cases hzero : count = 0
    · subst hzero
      obtain ⟨text, hpower, hrank, hchars⟩ := h.exists_belowOne 0 rfl
      exact ⟨text, hpower, hrank, hchars⟩
    · rcases Nat.lt_or_ge count digits.length with hlt | hge
      · obtain ⟨text, hpower, hrank, hchars⟩ := h.exists_inside rfl hzero hlt
        refine ⟨text, hpower, hrank, fun plusSign => ?_⟩
        simp only [positionalText]
        rw [if_neg hzero, if_pos hlt, hchars]
      · have hpoint : (count : Int) = digits.length + (count - digits.length : Nat) := by omega
        obtain ⟨text, hpower, hrank, hchars⟩ := h.exists_whole (count - digits.length) hpoint
        refine ⟨text, hpower, hrank, fun plusSign => ?_⟩
        simp only [positionalText]
        rw [if_neg hzero, if_neg (Nat.not_lt.mpr hge), hchars, if_pos trivial]

/-- With an exponent. -/
theorem exists_exponentText (h : DigitsOfRank digits point rank) :
    ∃ text : NumberText, text.decimal.nearestRank = rank ∧
      ∀ plusSign, text.chars plusSign = exponentText plusSign digits (point - 1) := by
  obtain ⟨first, rest, rfl⟩ := List.exists_cons_of_ne_nil h.ne_nil
  refine ⟨.scientific first rest (point - 1) h.isDigit, ?_, ?_⟩
  · have hdecimal : (⟨Counter.ofDigits ([first] ++ rest),
        (some (point - 1)).getD 0 - rest.length⟩ : Decimal) =
        ⟨Counter.ofDigits (first :: rest), point - (first :: rest).length⟩ := by
      simp only [List.singleton_append, Option.getD_some, List.length_cons]
      congr 1
      omega
    exact (congrArg Decimal.nearestRank hdecimal).trans h.nearestRank
  · intro plusSign
    have hpower : ∀ e : Int, exponentText plusSign (first :: rest) e =
        (if rest = [] then [first] else first :: '.' :: rest) ++
          'e' :: NumberText.signedDigits plusSign e := by
      intro e
      cases rest <;> cases e <;> rfl
    rw [hpower]
    cases rest <;>
      simp [NumberText.chars, NumberText.fractionChars, NumberText.powerChars,
        NumberText.scientific]

end DigitsOfRank

/-! ## Written magnitudes -/

/-- What is written for a magnitude in a style that keeps the point has parts that stand for
it; there is no power of ten among them if the style never has one. -/
theorem NumberStyle.exists_writeRank_eq (style : NumberStyle)
    (hkeeps : style.keepsPoint = true) (rank : Nat) :
    ∃ text : NumberText, style.writeRank rank = text.chars style.plusSign ∧
      text.decimal.nearestRank = rank ∧
      ((∀ e, style.positional e = true) → text.power = none) := by
  by_cases hzero : rank = 0
  · refine ⟨.pointed ['0'] ['0'] (List.cons_ne_nil _ _) (by simp) (fun _ => rfl)
      (List.cons_ne_nil _ _) (by simp), ?_, ?_, fun _ => rfl⟩
    · rw [writeRank, if_pos hzero, if_pos hkeeps]
      rfl
    · rw [hzero]
      exact Decimal.nearestRank_of_coefficient_eq_zero (by decide)
  · have hrank := Binary64.nearestRank_shortestDecimal style.tie rank
    have hpos : 0 < (Binary64.shortestDecimal style.tie rank).nearestRank := by omega
    have hdigitsOf := Decimal.digitsOfRank_significant hpos
    rw [hrank] at hdigitsOf
    simp only [writeRank, if_neg hzero]
    split
    · obtain ⟨text, hpower, hvalue, hchars⟩ := hdigitsOf.exists_positionalText
      refine ⟨text, ?_, hvalue, fun _ => hpower⟩
      rw [hchars, hkeeps]
    · rename_i hnot
      obtain ⟨text, hvalue, hchars⟩ := hdigitsOf.exists_exponentText
      exact ⟨text, (hchars _).symm, hvalue, fun hall => absurd (hall _) hnot⟩

end ResourceHealth
