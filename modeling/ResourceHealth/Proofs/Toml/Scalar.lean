import Mathlib
import ResourceHealth.Proofs.Binary64.Text
import ResourceHealth.Proofs.Toml.Strings
import ResourceHealth.Toml.Scalar

/-!
# Written scalars read back

A scalar that is written at the end of a line is read back, and nothing of it is taken for
another kind of scalar: no number looks like a date or a time, and a number with a fraction
is not an integer.  What a writer of strings has to do is said without a form: what it
writes is read as the string.

Main definitions:

- `Toml.IsStringLiteral`: a text that stands for a string at the end of a line.
- `Toml.StringWriter.Faithful`: a writer that can write every string.

Main results:

- Theorem `Toml.dateTime?_eq_none`: digits without the marks of dates are no date.
- Theorem `Toml.scalar?_toDigits`, `Toml.scalar?_write`: integers and numbers read back.
- Theorem `Toml.scalar?_boolean`, `Toml.scalar?_string`: and so do booleans and strings.
- Theorem `Toml.faithful_writePlain`: the plainest forms do for every string.
-/

namespace ResourceHealth

namespace Toml

/-! ## Digits -/

/-- Whether a character may go on with digits. -/
def continuesDigits (c : Char) : Bool :=
  c.isDigit || c == '_'

variable {rest : List Char}

/-- Just the digits are taken. -/
theorem digitRun_append {digits : List Char} (hdigits : ∀ c ∈ digits, c.isDigit = true)
    (hrest : Stops continuesDigits rest) :
    digitRun Char.isDigit (digits ++ rest) = (digits, rest) := by
  induction digits with
  | nil =>
    cases rest with
    | nil => rfl
    | cons c rest =>
      have hc := stops_cons.mp hrest
      simp only [continuesDigits, Bool.or_eq_false_iff, beq_eq_false_iff_ne] at hc
      rw [List.nil_append, digitRun, if_neg (by simp [hc.1])]
      rintro d others rfl
      exact absurd rfl hc.2
  | cons c digits ih =>
    have hc := hdigits c List.mem_cons_self
    rw [List.cons_append, digitRun, if_pos hc,
      ih fun d hd => hdigits d (List.mem_cons_of_mem _ hd)]
    rintro d others rfl
    exact absurd hc (by decide)

/-- A run of digits is read up to what cannot continue it. -/
theorem digits?_append {digits : List Char} (hne : digits ≠ [])
    (hdigits : ∀ c ∈ digits, c.isDigit = true) (hrest : Stops continuesDigits rest) :
    digits? Char.isDigit (digits ++ rest) = some (digits, rest) := by
  have hrun := digitRun_append hdigits hrest
  obtain ⟨c, digits, rfl⟩ := List.exists_cons_of_ne_nil hne
  rw [List.cons_append] at hrun ⊢
  rw [digits?, if_pos (hdigits c List.mem_cons_self), hrun]

/-- The digits of an integer, which has no zero in front, are taken. -/
theorem wholeDigits?_append {whole : List Char} (hne : whole ≠ [])
    (hdigits : ∀ c ∈ whole, c.isDigit = true) (hzero : whole.head? = some '0' → whole = ['0'])
    (hrest : Stops continuesDigits rest) :
    wholeDigits? (whole ++ rest) = some (whole, rest) := by
  by_cases hhead : whole.head? = some '0'
  · rw [hzero hhead]
    rfl
  · rw [wholeDigits?, digits?_append hne hdigits hrest]
    rintro others heq
    obtain ⟨c, whole, rfl⟩ := List.exists_cons_of_ne_nil hne
    rw [List.cons_append] at heq
    exact hhead (by rw [(List.cons.inj heq).1]; rfl)

/-- What starts with a digit has no sign. -/
theorem sign_of_head? {text : List Char} (h : ∀ c ∈ text.head?, c.isDigit = true) :
    sign text = (false, text) := by
  unfold sign
  split
  · exact absurd (h '+' rfl) (by decide)
  · exact absurd (h '-' rfl) (by decide)
  · rfl

/-! ## No date and no time -/

/-- A number of so many digits at the front of digits takes some of these. -/
theorem fixedNumber?_eq_some {count low high n : Nat} {text after : List Char}
    (h : fixedNumber? count low high text = some (n, after)) :
    (∀ c ∈ text.take count, c.isDigit = true) ∧ (text.take count).length = count ∧
      after = text.drop count := by
  unfold fixedNumber? at h
  simp only at h
  split at h
  · rename_i hfound
    cases h
    exact ⟨List.all_eq_true.mp hfound.2.1, hfound.1, rfl⟩
  · cases h

/-- Where a number of so many digits is at the front, there are so many digits. -/
theorem le_length_of_fixedNumber? {digits : List Char}
    (hrest : ∀ c ∈ rest.head?, c.isDigit = false) {count low high n : Nat} {after : List Char}
    (h : fixedNumber? count low high (digits ++ rest) = some (n, after)) :
    count ≤ digits.length := by
  obtain ⟨hall, hlength, -⟩ := fixedNumber?_eq_some h
  by_contra hlt
  rw [Nat.not_le] at hlt
  cases rest with
  | nil =>
    rw [List.append_nil, List.length_take] at hlength
    omega
  | cons c rest =>
    obtain ⟨k, hk⟩ : ∃ k, count - digits.length = k + 1 :=
      ⟨count - digits.length - 1, by omega⟩
    have hmem : c ∈ (digits ++ c :: rest).take count := by
      rw [List.take_append, hk, List.take_succ_cons]
      exact List.mem_append_right _ List.mem_cons_self
    have hdigit := hall c hmem
    rw [hrest c rfl] at hdigit
    cases hdigit

/-- Behind some of the digits of a number comes no mark of a date or a time. -/
theorem past?_eq_none {digits : List Char} (hdigits : ∀ c ∈ digits, c.isDigit = true)
    {mark : Char} (hmark : mark.isDigit = false)
    (hrest : ∀ c ∈ rest.head?, c.isDigit = false ∧ (digits ≠ [] → c ≠ mark))
    {count low high n : Nat} (hcount : count ≠ 0) {after : List Char}
    (h : fixedNumber? count low high (digits ++ rest) = some (n, after)) :
    past? mark after = none := by
  have hle := le_length_of_fixedNumber? (fun c hc => (hrest c hc).1) h
  have hne : digits ≠ [] := by
    rintro rfl
    exact hcount (Nat.le_zero.mp hle)
  obtain ⟨-, -, rfl⟩ := fixedNumber?_eq_some h
  rw [List.drop_append_of_le_length hle]
  cases hmore : digits.drop count with
  | cons c more =>
    have hc : c.isDigit = true :=
      hdigits c (List.mem_of_mem_drop (hmore ▸ List.mem_cons_self))
    refine if_neg fun hsame => ?_
    rw [hsame, hc] at hmark
    cases hmark
  | nil =>
    cases rest with
    | nil => rfl
    | cons c rest => exact if_neg fun hsame => (hrest c rfl).2 hne hsame.symm

/-- Digits that are followed by no mark of a date or a time are neither. -/
theorem dateTime?_eq_none {digits : List Char} (hdigits : ∀ c ∈ digits, c.isDigit = true)
    {rest : List Char}
    (hrest : ∀ c ∈ rest.head?, c.isDigit = false ∧ (digits ≠ [] → c ≠ '-' ∧ c ≠ ':')) :
    dateTime? (digits ++ rest) = none := by
  have hdate : pastDate? (digits ++ rest) = none := by
    unfold pastDate?
    cases h : fixedNumber? 4 0 9999 (digits ++ rest) with
    | none => rfl
    | some found =>
      have hmark := past?_eq_none hdigits (rfl : Char.isDigit '-' = false)
        (fun c hc => ⟨(hrest c hc).1, fun hne => ((hrest c hc).2 hne).1⟩) (by decide) h
      simp [hmark]
  have htime : pastTime? (digits ++ rest) = none := by
    unfold pastTime?
    cases h : fixedNumber? 2 0 23 (digits ++ rest) with
    | none => rfl
    | some found =>
      have hmark := past?_eq_none hdigits (rfl : Char.isDigit ':' = false)
        (fun c hc => ⟨(hrest c hc).1, fun hne => ((hrest c hc).2 hne).2⟩) (by decide) h
      simp [hmark]
  rw [dateTime?, hdate]
  exact htime

/-! ## Scalars at the end of a line -/

/-- What starts neither with a letter nor with a quote is a date or a number. -/
theorem scalar?_of_dateTime? {text : List Char} (hhead : ∀ c ∈ text.head?,
    c ≠ 't' ∧ c ≠ 'f' ∧ c ≠ '"' ∧ c ≠ '\'') (hdate : dateTime? text = none) :
    scalar? text = (float? text).or (integer? text) := by
  unfold scalar?
  split
  · exact absurd rfl (hhead _ rfl).1
  · exact absurd rfl (hhead _ rfl).2.1
  · exact absurd rfl (hhead _ rfl).2.2.1
  · exact absurd rfl (hhead _ rfl).2.2.2
  · rw [hdate]

/-- A boolean is read back. -/
theorem scalar?_boolean (value : Bool) (rest : List Char) :
    scalar? ((if value then "true".toList else "false".toList) ++ rest) =
      some (.boolean value, rest) := by
  cases value <;> rfl

/-- What is read as a string is read as that scalar. -/
theorem scalar?_of_string? {text : List Char} {found : List Char × List Char}
    (h : string? text = some found) : scalar? text = some (.string found.1, found.2) := by
  unfold scalar?
  split
  · cases h
  · cases h
  · rw [h]
    rfl
  · rw [h]
    rfl
  · rename_i hdouble hsingle
    unfold string? at h
    split at h
    · exact absurd rfl (hdouble _)
    · exact absurd rfl (hdouble _)
    · exact absurd rfl (hsingle _)
    · exact absurd rfl (hsingle _)
    · cases h

/-- A string at the end of a line is read back. -/
theorem scalar?_string (text rest : List Char) :
    scalar? ((StringForm.of text).write text ++ '\n' :: rest) =
      some (.string text, '\n' :: rest) :=
  scalar?_of_string? (string?_write (stops_cons.mpr rfl) text)

/-- A text that stands for a string at the end of a line. -/
def IsStringLiteral (written text : List Char) : Prop :=
  ∀ rest, scalar? (written ++ '\n' :: rest) = some (.string text, '\n' :: rest)

/-- A writer that does what TOML allows: every string is written, in whatever form, and what is
written stands for it. -/
def StringWriter.Faithful (write : StringWriter) : Prop :=
  ∀ text, ∃ written, write text = .ok written ∧ IsStringLiteral written text

/-- The plainest forms do for every string. -/
theorem faithful_writePlain : StringWriter.Faithful writePlain :=
  fun text => ⟨_, rfl, scalar?_string text⟩

/-- What starts with a digit starts neither with a letter nor with a quote. -/
theorem ne_of_isDigit {c : Char} (hc : c.isDigit = true) :
    c ≠ 't' ∧ c ≠ 'f' ∧ c ≠ '"' ∧ c ≠ '\'' := by
  refine ⟨?_, ?_, ?_, ?_⟩ <;>
    · rintro rfl
      exact absurd hc (by decide)

/-- A text that starts with a run of digits starts with a digit. -/
theorem isDigit_of_head? {digits : List Char} (hne : digits ≠ [])
    (hdigits : ∀ c ∈ digits, c.isDigit = true) (rest : List Char) :
    ∀ c ∈ (digits ++ rest).head?, c.isDigit = true := by
  intro c hc
  rw [List.head?_append_of_ne_nil _ hne] at hc
  exact hdigits c (List.mem_of_head? hc)

/-- The second character of a line of digits is no letter. -/
theorem isDigit_or_eq_of_cons {digits rest others : List Char} {c d : Char}
    (hdigits : ∀ c ∈ digits, c.isDigit = true)
    (h : digits ++ '\n' :: rest = c :: d :: others) (hne : digits ≠ []) :
    d.isDigit = true ∨ d = '\n' := by
  rcases digits with _ | ⟨first, _ | ⟨second, digits⟩⟩
  · exact absurd rfl hne
  · simp only [List.cons_append, List.nil_append, List.cons.injEq] at h
    exact Or.inr h.2.1.symm
  · simp only [List.cons_append, List.cons.injEq] at h
    rw [← h.2.1]
    exact Or.inl (hdigits second (by simp))

theorem isDigit_of_head?_toDigits (n : Nat) (rest : List Char) :
    ∀ c ∈ (Nat.toDigits 10 n ++ rest).head?, c.isDigit = true :=
  isDigit_of_head? Nat.toDigits_ne_nil (fun _ => Counter.isDigit_of_mem_toDigits) rest

/-- The digits of a counter have no zero in front, and all of them are taken. -/
theorem wholeDigits?_toDigits (n : Nat) (rest : List Char) :
    wholeDigits? (Nat.toDigits 10 n ++ '\n' :: rest) =
      some (Nat.toDigits 10 n, '\n' :: rest) := by
  refine wholeDigits?_append Nat.toDigits_ne_nil (fun _ => Counter.isDigit_of_mem_toDigits)
    (fun hhead => ?_) (stops_cons.mpr rfl)
  by_cases hn : n = 0
  · rw [hn]
    rfl
  · exact absurd hhead (Counter.head?_toDigits_ne hn)

/-- An integer at the end of a line is taken for no number with a fraction. -/
theorem float?_toDigits (n : Nat) (rest : List Char) :
    float? (Nat.toDigits 10 n ++ '\n' :: rest) = none := by
  simp only [float?, sign_of_head? (isDigit_of_head?_toDigits n _), wholeDigits?_toDigits]
  rfl

/-- An integer below the signed limit is read back, up to its line end. -/
theorem integer?_toDigits {n : Nat} (hn : n < Nat.pow 2 63) (rest : List Char) :
    integer? (Nat.toDigits 10 n ++ '\n' :: rest) = some (.integer n, '\n' :: rest) := by
  have hsecond : ∀ {c d : Char} {others : List Char},
      Nat.toDigits 10 n ++ '\n' :: rest = c :: d :: others → d.isDigit = true ∨ d = '\n' :=
    fun h => isDigit_or_eq_of_cons (fun _ => Counter.isDigit_of_mem_toDigits) h
      Nat.toDigits_ne_nil
  have hbounded : boundedInteger (n : Int) = some (.integer n) := by
    refine if_pos ?_
    simp [inRange]
    omega
  unfold integer?
  -- the second character is no letter, so no other base is announced
  split
  · rename_i heq
    exact absurd (hsecond heq) (by decide)
  · rename_i heq
    exact absurd (hsecond heq) (by decide)
  · rename_i heq
    exact absurd (hsecond heq) (by decide)
  · simp [sign_of_head? (isDigit_of_head?_toDigits n _), wholeDigits?_toDigits,
      Counter.ofDigits_toDigits, hbounded]

/-- An integer at the end of a line is read back. -/
theorem scalar?_toDigits {n : Nat} (hn : n < Nat.pow 2 63) (rest : List Char) :
    scalar? (Nat.toDigits 10 n ++ '\n' :: rest) = some (.integer n, '\n' :: rest) := by
  have hhead := isDigit_of_head?_toDigits n ('\n' :: rest)
  have hdate : dateTime? (Nat.toDigits 10 n ++ '\n' :: rest) = none :=
    dateTime?_eq_none (fun _ => Counter.isDigit_of_mem_toDigits) (by simp)
  rw [scalar?_of_dateTime? (fun c hc => ne_of_isDigit (hhead c hc)) hdate, float?_toDigits,
    integer?_toDigits hn]
  rfl

/-- A sign before digits is read as it is written. -/
theorem sign_signText (negative : Bool) {text : List Char}
    (hhead : ∀ c ∈ text.head?, c.isDigit = true) :
    sign (signText negative ++ text) = (negative, text) := by
  cases negative with
  | true => rfl
  | false => exact sign_of_head? hhead

/-- A finite number with a fraction at the end of a line is read as itself. -/
theorem float?_chars (negative : Bool) {text : NumberText} (hpower : text.power = none)
    {rank : Fin (infinityRank + 1)} (hrank : rank.val < infinityRank)
    (hvalue : text.decimal.nearestRank = rank.val) (rest : List Char) :
    float? (signText negative ++ (text.whole ++ '.' :: (text.fraction ++ '\n' :: rest))) =
      some (.float (.signed negative rank), '\n' :: rest) := by
  have hsign := sign_signText negative
    (isDigit_of_head? text.whole_ne_nil text.isDigit_whole ('.' :: (text.fraction ++ '\n' :: rest)))
  have hwhole := wholeDigits?_append text.whole_ne_nil text.isDigit_whole text.eq_zero_of_head?
    (stops_cons.mpr rfl : Stops continuesDigits ('.' :: (text.fraction ++ '\n' :: rest)))
  have hfraction : fractionDigits? ('.' :: (text.fraction ++ '\n' :: rest)) =
      some (text.fraction, '\n' :: rest) :=
    digits?_append (text.fraction_or_power.resolve_right (by simp [hpower])) text.isDigit_fraction
      (stops_cons.mpr rfl)
  have hnumber : floatOf negative text.whole text.fraction 0 = .signed negative rank := by
    have hread := Decimal.toBinary64_of_nearestRank hvalue negative
    rw [NumberText.decimal, hpower] at hread
    exact hread
  have hbounded : boundedFloat (.signed negative rank) = some (.float (.signed negative rank)) := by
    refine if_neg fun hinfinite => ?_
    simp only [Binary64.infinity, Binary64.signed.injEq] at hinfinite
    rw [hinfinite.2] at hrank
    exact Nat.lt_irrefl _ hrank
  have hexponent : exponent? ('\n' :: rest) = none := rfl
  simp only [float?, hsign, hwhole, hfraction, hexponent, Option.getD_none, hnumber, hbounded]
  rfl

/-- Such a number is no date and starts with a sign or a digit, so it is what is read. -/
theorem scalar?_chars (negative : Bool) {text : NumberText} (hpower : text.power = none)
    {rank : Fin (infinityRank + 1)} (hrank : rank.val < infinityRank)
    (hvalue : text.decimal.nearestRank = rank.val) (rest : List Char) :
    scalar? (signText negative ++ (text.whole ++ '.' :: (text.fraction ++ '\n' :: rest))) =
      some (.float (.signed negative rank), '\n' :: rest) := by
  have hdate : dateTime?
      (signText negative ++ (text.whole ++ '.' :: (text.fraction ++ '\n' :: rest))) = none := by
    cases negative with
    | true => exact dateTime?_eq_none (List.forall_mem_nil _) (by simp)
    | false => exact dateTime?_eq_none text.isDigit_whole (by simp)
  have hfirst : ∀ c ∈ (signText negative ++
      (text.whole ++ '.' :: (text.fraction ++ '\n' :: rest))).head?,
      c ≠ 't' ∧ c ≠ 'f' ∧ c ≠ '"' ∧ c ≠ '\'' := by
    intro c hc
    cases negative with
    | true =>
      obtain rfl := Option.some.inj hc
      decide
    | false => exact ne_of_isDigit (isDigit_of_head? text.whole_ne_nil text.isDigit_whole _ c hc)
  rw [scalar?_of_dateTime? hfirst hdate, float?_chars negative hpower hrank hvalue]
  rfl

/-- A number at the end of a line is read back, NaN and infinities included. -/
theorem scalar?_write (x : Binary64) (rest : List Char) :
    scalar? (NumberStyle.toml.write x ++ '\n' :: rest) = some (.float x, '\n' :: rest) := by
  cases x with
  | nan => rfl
  | signed negative rank =>
    by_cases hinfinite : rank.val = infinityRank
    · have hrank : rank = ⟨infinityRank, Nat.lt_succ_self _⟩ := Fin.ext hinfinite
      subst hrank
      cases negative <;> rfl
    · have hrank : rank.val < infinityRank := by
        have := rank.isLt
        omega
      obtain ⟨text, hchars, hvalue, hpower⟩ :=
        NumberStyle.toml.exists_writeRank_eq rfl rank.val
      have hnone : text.power = none := hpower fun _ => rfl
      have hwritten : NumberStyle.toml.write (.signed negative rank) ++ '\n' :: rest =
          signText negative ++ (text.whole ++ '.' :: (text.fraction ++ '\n' :: rest)) := by
        rw [NumberStyle.write, if_neg hinfinite, hchars,
          NumberText.chars_of_power_eq_none hnone]
        simp
      rw [hwritten]
      exact scalar?_chars negative hnone hrank hvalue rest

end Toml

end ResourceHealth
