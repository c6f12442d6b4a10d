import Mathlib
import ResourceHealth.Json.Value
import ResourceHealth.Json.Token
import ResourceHealth.Proofs.Binary64.Text
import ResourceHealth.Proofs.Text.Front

/-!
# Tokens of written JSON

A number, a counter, a string or a word that is written in JSON is cut off again as the
token that it was written for, whatever follows it.  Only behind a number it matters what
follows: no digit, point or exponent may.

Main definitions:

- `Json.Numeral.ofCounter`: what a counter is understood as.
- `Json.Token.continuesNumber`: what may not stand behind a number.

Main results:

- Theorem `Json.Token.scan_write`: a finite number is cut off as itself.
- Theorem `Json.Token.scan_toDigits`: so is a counter.
- Theorem `Json.Token.scan_quotedText`: so is any text between quotes.
-/

namespace ResourceHealth

namespace Json

/-- What a counter is understood as: itself if it fits in 64 bits. -/
def Numeral.ofCounter (n : Nat) : Numeral :=
  if n < Counter.limit then .counter n else .binary (Decimal.toBinary64 false ⟨n, 0⟩)

namespace Token

/-! ## Cutting -/

/-- Scanning takes one token at a character that starts one, and goes on behind it. -/
theorem scan_cons {c : Char} (hgap : isGap c = false) (rest : List Char) :
    scan (c :: rest) = (take c rest).1 :: scan (take c rest).2 := by
  rw [scan, hgap, if_neg Bool.false_ne_true]

/-- White space between tokens is skipped. -/
theorem scan_gap {c : Char} (hgap : isGap c = true) (rest : List Char) :
    scan (c :: rest) = scan rest := by
  rw [scan, if_pos hgap]

/-- Gaps do not matter. -/
theorem scan_gaps {gaps : List Char} (hgaps : ∀ c ∈ gaps, isGap c = true)
    (rest : List Char) : scan (gaps ++ rest) = scan rest := by
  induction gaps with
  | nil => rfl
  | cons c gaps ih =>
    rw [List.cons_append, scan_gap (hgaps c List.mem_cons_self)]
    exact ih fun d hd => hgaps d (List.mem_cons_of_mem _ hd)

@[simp]
theorem scan_openArray (rest : List Char) : scan ('[' :: rest) = .openArray :: scan rest :=
  scan_cons rfl rest

@[simp]
theorem scan_closeArray (rest : List Char) : scan (']' :: rest) = .closeArray :: scan rest :=
  scan_cons rfl rest

@[simp]
theorem scan_openObject (rest : List Char) :
    scan ('\x7b' :: rest) = .openObject :: scan rest :=
  scan_cons rfl rest

@[simp]
theorem scan_closeObject (rest : List Char) :
    scan ('\x7d' :: rest) = .closeObject :: scan rest :=
  scan_cons rfl rest

@[simp]
theorem scan_comma (rest : List Char) : scan (',' :: rest) = .comma :: scan rest :=
  scan_cons rfl rest

@[simp]
theorem scan_colon (rest : List Char) : scan (':' :: rest) = .colon :: scan rest :=
  scan_cons rfl rest

@[simp]
theorem scan_newLine (depth : Nat) (rest : List Char) :
    scan (newLine depth ++ rest) = scan rest := by
  refine scan_gaps (fun c hc => ?_) rest
  rcases List.mem_cons.mp hc with rfl | hc
  · rfl
  · rw [List.eq_of_mem_replicate hc]
    rfl

/-! ## Numbers -/

/-- Whether a character may go on with a number. -/
def continuesNumber (c : Char) : Bool :=
  c.isDigit || c == '.' || c == 'e' || c == 'E'

variable {after : List Char}

/-- What ends a number ends a run of digits. -/
theorem stops_isDigit (h : Stops continuesNumber after) : Stops Char.isDigit after := by
  intro c hc
  have := h c hc
  simp_all [continuesNumber]

/-- Behind a fraction comes its exponent or what ends the number. -/
theorem stops_powerChars (h : Stops continuesNumber after) (text : NumberText) :
    Stops (fun c => c.isDigit || c == '.') (text.powerChars true ++ after) := by
  unfold NumberText.powerChars
  cases text.power with
  | none =>
    intro c hc
    have := h c hc
    simp_all [continuesNumber]
  | some e => exact stops_cons.mpr rfl

/-- An exponent with its sign is read back, up to what follows its digits. -/
theorem exponent_signedDigits (h : Stops Char.isDigit after) (e : Int) :
    exponent ('e' :: NumberText.signedDigits true e ++ after) = some (some e, after) := by
  have hdigits : ∀ n, (Nat.toDigits 10 n ++ after).takeWhile Char.isDigit = Nat.toDigits 10 n :=
    fun n => h.takeWhile_append fun _ => Counter.isDigit_of_mem_toDigits
  have hrest : ∀ n, (Nat.toDigits 10 n ++ after).dropWhile Char.isDigit = after :=
    fun n => h.dropWhile_append fun _ => Counter.isDigit_of_mem_toDigits
  cases e with
  | ofNat n =>
    simp [NumberText.signedDigits, exponent, exponentSign, hdigits, hrest,
      Nat.toDigits_ne_nil]
  | negSucc n =>
    simp [NumberText.signedDigits, exponent, exponentSign, hdigits, hrest,
      Nat.toDigits_ne_nil]
    omega

/-- The exponent of a written number is read back, also where there is none. -/
theorem exponent_powerChars (h : Stops continuesNumber after) (text : NumberText) :
    exponent (text.powerChars true ++ after) = some (text.power, after) := by
  unfold NumberText.powerChars
  cases text.power with
  | none =>
    cases after with
    | nil => rfl
    | cons c rest =>
      have hc := stops_cons.mp h
      simp [continuesNumber] at hc
      simp [exponent, hc]
  | some e => exact exponent_signedDigits (stops_isDigit h) e

/-- The fraction of a written number is read back, also where there is none. -/
theorem fraction_fractionChars (text : NumberText)
    (h : Stops (fun c => c.isDigit || c == '.') after) :
    fraction (text.fractionChars ++ after) = some (text.fraction, after) := by
  by_cases hnil : text.fraction = []
  · have hchars : text.fractionChars = [] := if_pos hnil
    rw [hchars, hnil, List.nil_append]
    cases after with
    | nil => rfl
    | cons c rest =>
      have hc := stops_cons.mp h
      simp only [Bool.or_eq_false_iff, beq_eq_false_iff_ne] at hc
      unfold fraction
      split
      · rename_i heq
        exact absurd (List.cons.inj heq).1 hc.2
      · rfl
  · have hstops : Stops Char.isDigit after := by
      intro c hc
      have := h c hc
      simp_all
    rw [NumberText.fractionChars_of_ne_nil hnil]
    simp only [fraction, List.cons_append]
    rw [hstops.takeWhile_append text.isDigit_fraction,
      hstops.dropWhile_append text.isDigit_fraction, if_neg hnil]

/-- The parts of a number are read as the decimal that they stand for. -/
theorem takeNumber_chars (negative : Bool) (text : NumberText)
    (h : Stops continuesNumber after) :
    takeNumber negative (text.chars true ++ after) =
      some (.binary (text.decimal.toBinary64 negative), after) := by
  have hpower := stops_powerChars h text
  have hstops : Stops Char.isDigit (text.fractionChars ++ (text.powerChars true ++ after)) := by
    unfold NumberText.fractionChars
    split
    · intro c hc
      have := hpower c hc
      simp_all
    · exact stops_cons.mpr rfl
  have hzero : ¬ (text.whole.head? = some '0' ∧ 1 < text.whole.length) := by
    rintro ⟨hhead, hlength⟩
    rw [text.eq_zero_of_head? hhead] at hlength
    exact absurd hlength (by decide)
  have hnumeral : numeral negative text.whole text.fraction text.power =
      .binary (text.decimal.toBinary64 negative) := if_pos text.fraction_or_power
  unfold takeNumber NumberText.chars
  simp only [List.append_assoc]
  rw [hstops.takeWhile_append text.isDigit_whole, hstops.dropWhile_append text.isDigit_whole,
    if_neg (not_or.mpr ⟨text.whole_ne_nil, hzero⟩), fraction_fractionChars text hpower]
  simp only
  rw [exponent_powerChars h]
  simp only [hnumeral]

/-- The digits of a counter are read as the counter. -/
theorem takeNumber_toDigits (n : Nat) (h : Stops continuesNumber after) :
    takeNumber false (Nat.toDigits 10 n ++ after) =
      some (Numeral.ofCounter n, after) := by
  have hdigit : ∀ c ∈ Nat.toDigits 10 n, c.isDigit = true :=
    fun _ => Counter.isDigit_of_mem_toDigits
  have hzero : ¬ ((Nat.toDigits 10 n).head? = some '0' ∧ 1 < (Nat.toDigits 10 n).length) := by
    rintro ⟨hhead, hlength⟩
    by_cases hn : n = 0
    · rw [hn] at hlength
      exact absurd hlength (by decide)
    · exact Counter.head?_toDigits_ne hn hhead
  have hfraction : fraction after = some ([], after) := by
    unfold fraction
    split
    · exact absurd (stops_cons.mp h) (by decide)
    · rfl
  have hexponent : exponent after = some (none, after) := by
    cases after with
    | nil => rfl
    | cons c rest =>
      have hc := stops_cons.mp h
      simp [continuesNumber] at hc
      simp [exponent, hc]
  have hnumeral : numeral false (Nat.toDigits 10 n) [] none = Numeral.ofCounter n := by
    simp [numeral, Numeral.ofCounter]
  unfold takeNumber
  simp only
  rw [(stops_isDigit h).takeWhile_append hdigit, (stops_isDigit h).dropWhile_append hdigit,
    if_neg (not_or.mpr ⟨Nat.toDigits_ne_nil, hzero⟩), hfraction]
  simp only
  rw [hexponent]
  simp only [hnumeral]

/-- A digit starts a number. -/
theorem take_of_isDigit {c : Char} (hc : c.isDigit = true) {rest : List Char} {n : Numeral}
    (h : takeNumber false (c :: rest) = some (n, after)) :
    take c rest = (.number n, after) := by
  unfold take
  split
  all_goals first
    | exact absurd hc (by decide)
    | rw [h]

/-- A digit is no gap. -/
theorem isGap_of_isDigit {c : Char} (hc : c.isDigit = true) : isGap c = false := by
  cases hgap : isGap c with
  | false => rfl
  | true =>
    simp only [isGap, Bool.or_eq_true, beq_iff_eq] at hgap
    rcases hgap with ((rfl | rfl) | rfl) | rfl <;> exact absurd hc (by decide)

/-- A number that starts with a digit is cut off as it is read. -/
theorem scan_of_takeNumber {text : List Char} {n : Numeral}
    (hhead : ∀ c ∈ text.head?, c.isDigit = true)
    (h : takeNumber false text = some (n, after)) : scan text = .number n :: scan after := by
  cases text with
  | nil => cases h
  | cons c rest =>
    have hc : c.isDigit = true := hhead c rfl
    rw [scan_cons (isGap_of_isDigit hc), take_of_isDigit hc h]

/-- A counter is cut off as itself. -/
theorem scan_toDigits (n : Nat) (h : Stops continuesNumber after) :
    scan (Nat.toDigits 10 n ++ after) = .number (.ofCounter n) :: scan after := by
  refine scan_of_takeNumber (fun c hc => ?_) (takeNumber_toDigits n h)
  rw [List.head?_append_of_ne_nil _ Nat.toDigits_ne_nil] at hc
  exact Counter.isDigit_of_mem_toDigits (List.mem_of_head? hc)

/-- A finite number is cut off as itself, with its sign. -/
theorem scan_write {x : Binary64} (hx : x.isFinite = true) (h : Stops continuesNumber after) :
    scan (NumberStyle.json.write x ++ after) = .number (.binary x) :: scan after := by
  cases x with
  | nan => cases hx
  | signed negative rank =>
    have hrank : rank.val ≠ infinityRank := Nat.ne_of_lt (of_decide_eq_true hx)
    obtain ⟨text, hchars, hvalue, -⟩ :=
      NumberStyle.json.exists_writeRank_eq rfl rank.val
    have hread := takeNumber_chars negative text h
    rw [Decimal.toBinary64_of_nearestRank hvalue] at hread
    have hwrite : NumberStyle.json.write (.signed negative rank) =
        signText negative ++ text.chars true := by
      rw [NumberStyle.write, if_neg hrank, hchars]
      rfl
    rw [hwrite]
    cases negative with
    | true =>
      have htake : take '-' (text.chars true ++ after) =
          (.number (.binary (.signed true rank)), after) := by
        simp only [take]
        rw [hread]
      change scan ('-' :: (text.chars true ++ after)) = _
      rw [scan_cons rfl, htake]
    | false =>
      refine scan_of_takeNumber (fun c hc => ?_) hread
      have hhead : (text.chars true ++ after).head? = text.whole.head? := by
        rw [NumberText.chars, List.append_assoc,
          List.head?_append_of_ne_nil _ text.whole_ne_nil]
      rw [show signText false ++ text.chars true ++ after = text.chars true ++ after from rfl,
        hhead] at hc
      exact text.isDigit_whole c (List.mem_of_head? hc)

/-! ## Strings -/

/-- What a written character is read as: control characters without a short escape are written
by their numbers. -/
def partOf (c : Char) : Part :=
  if c.toNat < 0x20 ∧ c ∉ ['\n', '\r', '\t', '\x08', '\x0c'] then .unit c.toNat else .char c

/-- The four hexadecimal digits of a control character stand for its number. -/
theorem hexNumber?_hexDigits {n : Nat} (hn : n < 0x20) :
    hexNumber? (List.replicate (4 - (Nat.toDigits 16 n).length) '0' ++ Nat.toDigits 16 n) =
      some n := by
  interval_cases n <;> rfl

theorem length_hexDigits {n : Nat} (hn : n < 0x20) :
    (List.replicate (4 - (Nat.toDigits 16 n).length) '0' ++ Nat.toDigits 16 n).length = 4 := by
  interval_cases n <;> rfl

variable {text : List Char} {parts : List Part}

/-- An escape of one letter stands for the character the table gives. -/
theorem stringParts_letter {letter c : Char} (hletter : letter ≠ 'u')
    (hlookup : shortEscapes.lookup letter = some c)
    (h : stringParts text = some (parts, after)) :
    stringParts ('\\' :: letter :: text) = some (.char c :: parts, after) := by
  rw [stringParts]
  · rw [hlookup, h]
  · intro a b c d rest heq
    exact absurd heq hletter

/-- An escape of four hexadecimal digits stands for that code unit. -/
theorem stringParts_number {digits : List Char} {n : Nat} (hlength : digits.length = 4)
    (hnumber : hexNumber? digits = some n) (h : stringParts text = some (parts, after)) :
    stringParts ('\\' :: 'u' :: (digits ++ text)) = some (.unit n :: parts, after) := by
  obtain ⟨a, b, c, d, rfl⟩ := List.length_eq_four.mp hlength
  simp only [stringParts, List.cons_append, List.nil_append]
  rw [hnumber, h]

/-- A character that needs no escape stands for itself. -/
theorem stringParts_plain {c : Char} (hcontrol : ¬ c.toNat < 0x20) (hquote : c ≠ '"')
    (hbackslash : c ≠ '\\') (h : stringParts text = some (parts, after)) :
    stringParts (c :: text) = some (.char c :: parts, after) := by
  rw [stringParts]
  · rw [if_neg (not_or.mpr ⟨hcontrol, hbackslash⟩), h]
  · exact hquote
  · intro a b c d rest hc
    exact absurd hc hbackslash
  · intro letter rest hc
    exact absurd hc hbackslash

/-- A character is read as the one that was written. -/
theorem stringParts_escapedChar (c : Char) (h : stringParts text = some (parts, after)) :
    stringParts (escapedChar c ++ text) = some (partOf c :: parts, after) := by
  unfold escapedChar
  split
  case h_8 hquote hbackslash hfeed hreturn htab hback hform =>
    split
    · rename_i hcontrol
      have hpart : partOf c = .unit c.toNat :=
        if_pos ⟨hcontrol, by
          simp only [List.mem_cons, List.not_mem_nil, or_false, not_or]
          exact ⟨hfeed, hreturn, htab, hback, hform⟩⟩
      rw [hpart]
      exact stringParts_number (length_hexDigits hcontrol) (hexNumber?_hexDigits hcontrol) h
    · rename_i hcontrol
      have hpart : partOf c = .char c := if_neg fun hunit => hcontrol hunit.1
      rw [hpart]
      exact stringParts_plain hcontrol hquote hbackslash h
  all_goals exact stringParts_letter (by decide) rfl h

/-- A text between quotes is read as its parts. -/
theorem stringParts_escaped (text rest : List Char) :
    stringParts (text.flatMap escapedChar ++ '"' :: rest) = some (text.map partOf, rest) := by
  induction text with
  | nil => rfl
  | cons c text ih =>
    rw [List.flatMap_cons, List.append_assoc]
    exact stringParts_escapedChar c ih

/-- A code unit below the surrogates joins to the character of that number. -/
theorem joinParts_unit {n : Nat} (hn : n < 0xd800) (parts : List Part) :
    joinParts (.unit n :: parts) = (joinParts parts).map (Char.ofNat n :: ·) := by
  have hhigh : isHighUnit n = false := by simp [isHighUnit]; omega
  have hlow : isLowUnit n = false := by simp [isLowUnit]; omega
  cases parts with
  | nil => simp [joinParts, hhigh, hlow]
  | cons part parts => cases part <;> simp [joinParts, hhigh, hlow]

/-- The parts that the characters of a text are written as join to that text. -/
theorem joinParts_map_partOf (text : List Char) : joinParts (text.map partOf) = some text := by
  induction text with
  | nil => rfl
  | cons c text ih =>
    rw [List.map_cons]
    by_cases hunit : c.toNat < 0x20 ∧ c ∉ ['\n', '\r', '\t', '\x08', '\x0c']
    · have hpart : partOf c = .unit c.toNat := if_pos hunit
      have hsmall : c.toNat < 0xd800 := Nat.lt_trans hunit.1 (by decide)
      rw [hpart, joinParts_unit hsmall, ih, Option.map_some, Char.ofNat_toNat]
    · have hpart : partOf c = .char c := if_neg hunit
      rw [hpart, joinParts, ih, Option.map_some]

/-- A text between quotes is cut off as the text. -/
theorem scan_quotedText (text after : List Char) :
    scan (quotedText text ++ after) = .string (some text) :: scan after := by
  have htake : take '"' (text.flatMap escapedChar ++ '"' :: after) =
      (.string (some text), after) := by
    simp only [take]
    rw [stringParts_escaped]
    simp only [joinParts_map_partOf]
  have hquoted : quotedText text ++ after =
      '"' :: (text.flatMap escapedChar ++ '"' :: after) := by
    simp [quotedText]
  rw [hquoted, scan_cons rfl, htake]

/-! ## Words -/

@[simp]
theorem scan_null (after : List Char) : scan ("null".toList ++ after) = .null :: scan after :=
  scan_cons rfl _

@[simp]
theorem scan_true (after : List Char) :
    scan ("true".toList ++ after) = .boolean true :: scan after :=
  scan_cons rfl _

@[simp]
theorem scan_false (after : List Char) :
    scan ("false".toList ++ after) = .boolean false :: scan after :=
  scan_cons rfl _

end Token

end Json

end ResourceHealth
