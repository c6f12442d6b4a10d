import Mathlib
import ResourceHealth.Proofs.Text.Front
import ResourceHealth.Toml.Strings
import ResourceHealth.Toml.Write

/-!
# Written strings read back

Whatever a string holds, the form that is chosen for it can hold it: what the form writes
as it is may stand in it, what may not is escaped, and quotes at the end of a text are told
from those that close it.

Main definitions:

- `Toml.ReadsEscapes`: what reads escapes and plain characters one by one.
- `Toml.HasLongRow`: a text with too many quotes in a row.

Main results:

- Theorem `Toml.ReadsEscapes.escaped`: a character that is written with escapes is read.
- Theorem `Toml.basicBody_escapedLine`, `Toml.literalBody_of_plain`: strings on one line.
- Theorem `Toml.basicLines_escapedLines`, `Toml.literalLines_of_plain`: strings on many
  lines.
- Theorem `Toml.string?_write`: any string is read back in the form that is chosen for it.
- Theorem `Toml.writeString_of_not_hasLongRow`: counting the rows of quotes makes no difference
  unless one is too long.
-/

namespace ResourceHealth

namespace Toml

/-! ## Characters as they are -/

/-- What needs no escape is plain, but for the line feed. -/
theorem isPlain_of_not_needsEscape {c : Char} (h : needsEscape c = false) (hfeed : c ≠ '\n') :
    isPlain c = true := by
  by_cases htab : c = '\t'
  · rw [htab]
    rfl
  · simp [needsEscape, htab, hfeed] at h
    simp [isPlain, h]

/-- A plain character does not end a line. -/
theorem ne_of_isPlain {c : Char} (h : isPlain c = true) : c ≠ '\n' ∧ c ≠ '\r' := by
  constructor
  · rintro rfl
    exact absurd h (by decide)
  · rintro rfl
    exact absurd h (by decide)

/-! ## Escapes -/

/-- What reads escapes and plain characters one by one. -/
structure ReadsEscapes (reader : List Char → Option (List Char × List Char)) : Prop where
  letter : ∀ {mark c : Char}, (mark, c) ∈ shortEscapes → ∀ rest,
    reader ('\\' :: mark :: rest) = before (some c) (reader rest)
  number : ∀ {digits : List Char}, digits.length = 4 → ∀ rest,
    reader ('\\' :: 'u' :: (digits ++ rest)) = before (hexChar? digits) (reader rest)
  plain : ∀ {c : Char}, isPlain c = true → c ≠ '\\' → c ≠ '"' → ∀ rest,
    reader (c :: rest) = before (some c) (reader rest)

/-- A letter stands for one character, is not the mark of a number, and is no blank. -/
theorem letter_of_mem {mark c : Char} (h : (mark, c) ∈ shortEscapes) :
    shortEscapes.lookup mark = some c ∧ mark ∉ ['u', 'U', ' ', '\t', '\n', '\r'] := by
  have hall : ∀ escape ∈ shortEscapes, shortEscapes.lookup escape.1 = some escape.2 ∧
      escape.1 ∉ ['u', 'U', ' ', '\t', '\n', '\r'] := by decide
  exact hall (mark, c) h

/-- The four digits of a control character stand for it. -/
theorem hexChar?_hexDigits {n : Nat} (hn : n < 0x20 ∨ n = 0x7f) :
    hexChar? (List.replicate (4 - ((Nat.toDigits 16 n).map Char.toUpper).length) '0' ++
      (Nat.toDigits 16 n).map Char.toUpper) = some (Char.ofNat n) := by
  rcases hn with hn | rfl
  · interval_cases n <;> rfl
  · rfl

theorem length_hexDigits {n : Nat} (hn : n < 0x20 ∨ n = 0x7f) :
    (List.replicate (4 - ((Nat.toDigits 16 n).map Char.toUpper).length) '0' ++
      (Nat.toDigits 16 n).map Char.toUpper).length = 4 := by
  rcases hn with hn | rfl
  · interval_cases n <;> rfl
  · rfl

/-- A character that is written with escapes is read. -/
theorem ReadsEscapes.escaped {reader : List Char → Option (List Char × List Char)}
    (h : ReadsEscapes reader) {c : Char} (hquote : c ≠ '"') (hfeed : c ≠ '\n')
    (rest : List Char) : reader (escaped c ++ rest) = before (some c) (reader rest) := by
  unfold Toml.escaped
  split
  case h_6 hback htab hform hreturn hbackslash =>
    split
    · rename_i hescape
      have hn : c.toNat < 0x20 ∨ c.toNat = 0x7f := by
        simp [needsEscape] at hescape
        omega
      refine (h.number (length_hexDigits hn) rest).trans ?_
      rw [hexChar?_hexDigits hn, Char.ofNat_toNat]
    · rename_i hescape
      exact h.plain (isPlain_of_not_needsEscape (by simpa using hescape) hfeed) hbackslash
        hquote rest
  all_goals exact h.letter (by decide) rest

/-- What is written for a character with escapes starts with no quote and no line end. -/
theorem exists_escaped_eq {c : Char} (hquote : c ≠ '"') (hfeed : c ≠ '\n') :
    ∃ d more, escaped c = d :: more ∧ d ≠ '"' ∧ d ≠ '\n' ∧ d ≠ '\r' := by
  unfold escaped
  split
  case h_6 hback htab hform hreturn hbackslash =>
    split
    · exact ⟨'\\', _, rfl, by decide⟩
    · exact ⟨c, [], rfl, hquote, hfeed, hreturn⟩
  all_goals exact ⟨'\\', _, rfl, by decide⟩

/-! ## Strings on one line -/

/-- A basic string on one line reads escapes. -/
theorem readsEscapes_basicBody : ReadsEscapes basicBody where
  letter {mark c} hmark rest := by
    obtain ⟨hlookup, hnot⟩ := letter_of_mem hmark
    rw [basicBody, hlookup]
    · rintro a b c d others rfl
      exact absurd hnot (by decide)
    · rintro a b c d e f g h others rfl
      exact absurd hnot (by decide)
  number {digits} hlength rest := by
    obtain ⟨a, b, c, d, rfl⟩ := List.length_eq_four.mp hlength
    rfl
  plain {c} hplain hbackslash hquote rest := by
    rw [basicBody, if_pos ⟨hplain, hbackslash⟩]
    · exact hquote
    · intro a b c d others heq
      exact absurd heq hbackslash
    · intro a b c d e f g h others heq
      exact absurd heq hbackslash
    · intro letter others heq
      exact absurd heq hbackslash

/-- A text with escapes for one line is read up to the closing quote. -/
theorem basicBody_escapedLine (text after : List Char) :
    basicBody (escapedLine text ++ '"' :: after) = some (text, after) := by
  induction text with
  | nil => rfl
  | cons c text ih =>
    have hnext : basicBody (escapedLine (c :: text) ++ '"' :: after) =
        before (some c) (basicBody (escapedLine text ++ '"' :: after)) := by
      rw [escapedLine, List.flatMap_cons, List.append_assoc]
      split
      · rename_i hquote
        subst hquote
        exact readsEscapes_basicBody.letter (by decide) _
      · rename_i hquote
        split
        · rename_i hfeed
          subst hfeed
          exact readsEscapes_basicBody.letter (by decide) _
        · rename_i hfeed
          exact readsEscapes_basicBody.escaped hquote hfeed _
    rw [hnext, ih]
    rfl

/-- A text of plain characters is read up to the closing quote. -/
theorem literalBody_of_plain {text : List Char} (hplain : ∀ c ∈ text, isPlain c = true)
    (hquote : '\'' ∉ text) (after : List Char) :
    literalBody (text ++ '\'' :: after) = some (text, after) := by
  induction text with
  | nil => rfl
  | cons c text ih =>
    have hc : c ≠ '\'' := fun h => hquote (h ▸ List.mem_cons_self)
    rw [List.cons_append, literalBody, if_pos (hplain c List.mem_cons_self), ih]
    · rfl
    · intro d hd
      exact hplain d (List.mem_cons_of_mem _ hd)
    · intro hmem
      exact hquote (List.mem_cons_of_mem _ hmem)
    · exact hc

/-! ## Quotes at the end of a text -/

/-- Whether a character is a quote. -/
def isQuote (c : Char) : Bool :=
  c == '"' || c == '\''

variable {after : List Char}

/-- What does not start with a quote does not start with either of them. -/
theorem ne_of_stops_isQuote (hafter : Stops isQuote after) {quote : Char}
    (hquote : isQuote quote = true) (rest : List Char) : after ≠ quote :: rest := by
  rintro rfl
  rw [stops_cons.mp hafter] at hquote
  cases hquote

/-- Up to two quotes before the closing ones belong to the string. -/
theorem closing_replicate (hafter : Stops isQuote after) {quote : Char}
    (hquote : isQuote quote = true) {count : Nat} (hcount : count ≤ 2) :
    closing quote (List.replicate count quote ++ after) =
      (List.replicate count quote, after) := by
  have hne : ∀ rest, after ≠ quote :: rest := ne_of_stops_isQuote hafter hquote
  interval_cases count
  · rcases after with _ | ⟨c, _ | ⟨d, rest⟩⟩
    · rfl
    · have hc : c ≠ quote := fun h => hne [] (by rw [h])
      simp [closing, hc]
    · have hc : c ≠ quote := fun h => hne (d :: rest) (by rw [h])
      simp [closing, hc]
  · rcases after with _ | ⟨c, rest⟩
    · simp [closing]
    · have hc : c ≠ quote := fun h => hne rest (by rw [h])
      simp [closing, hc]
  · simp [closing]

/-- Quotes that are followed by the closing ones may as well come behind them. -/
theorem replicate_append_closing (quote : Char) (count : Nat) (after : List Char) :
    List.replicate count quote ++ quote :: quote :: quote :: after =
      quote :: quote :: quote :: (List.replicate count quote ++ after) := by
  induction count with
  | zero => rfl
  | succ count ih => rw [List.replicate_succ, List.cons_append, ih, List.cons_append]

/-! ## Strings on many lines, with escapes -/

/-- A line does not end in front of anything but blanks and line breaks. -/
theorem endsLine_cons {c : Char} (hc : c ∉ [' ', '\t', '\n', '\r']) (rest : List Char) :
    endsLine (c :: rest) = false := by
  simp only [List.mem_cons, List.not_mem_nil, or_false, not_or] at hc
  have hblank : isBlank c = false := by simp [isBlank, hc]
  have hline : lineEnd? (c :: rest) = none := by
    unfold lineEnd?
    split
    · rename_i heq
      exact absurd (List.cons.inj heq).1 hc.2.2.1
    · rename_i heq
      exact absurd (List.cons.inj heq).1 hc.2.2.2
    · rfl
  rw [endsLine, skipBlanks, List.dropWhile_cons_of_neg (by simp [hblank]), hline]
  rfl

/-- A character that does not start three quotes is read as it is. -/
theorem basicLines_cons {c : Char} {rest : List Char} (hplain : isPlain c = true)
    (hbackslash : c ≠ '\\') (h : c = '"' → ¬ ['"', '"'] <+: rest) :
    basicLines false (c :: rest) = before (some c) (basicLines false rest) := by
  have hends := ne_of_isPlain hplain
  rw [basicLines, if_neg (by simp), if_pos ⟨hplain, hbackslash⟩]
  · rintro others rfl rfl
    exact h rfl (List.prefix_append ['"', '"'] others)
  · rintro others rfl
    exact absurd rfl hends.2
  · exact hends.1
  · rintro a b c d others rfl
    exact absurd rfl hbackslash
  · rintro a b c d e f g h others rfl
    exact absurd rfl hbackslash
  · rintro letter others rfl
    exact absurd rfl hbackslash

/-- A basic string on several lines reads escapes. -/
theorem readsEscapes_basicLines : ReadsEscapes (basicLines false) where
  letter {mark c} hmark rest := by
    obtain ⟨hlookup, hnot⟩ := letter_of_mem hmark
    simp only [List.mem_cons, List.not_mem_nil, or_false, not_or] at hnot
    have hends : endsLine (mark :: rest) = false :=
      endsLine_cons (by simp [hnot]) rest
    rw [basicLines, hends, hlookup, if_neg Bool.false_ne_true]
    · rintro a b c d others rfl
      exact absurd rfl hnot.1
    · rintro a b c d e f g h others rfl
      exact absurd rfl hnot.2.1
  number {digits} hlength rest := by
    obtain ⟨a, b, c, d, rfl⟩ := List.length_eq_four.mp hlength
    rfl
  plain {c} hplain hbackslash hquote rest :=
    basicLines_cons hplain hbackslash fun h => absurd h hquote

/-- What is written for a character that is no quote, or for a third quote in a row, does not
start with a quote. -/
theorem exists_escapedLines_eq {c : Char} {row : Nat} (h : c ≠ '"' ∨ row = 2)
    (text : List Char) :
    ∃ d more, escapedLines row (c :: text) = d :: more ∧ d ≠ '"' := by
  by_cases hquote : c = '"'
  · refine ⟨'\\', '"' :: escapedLines 0 text, ?_, by decide⟩
    rw [escapedLines, if_pos hquote, if_pos (h.resolve_left (by simp [hquote]))]
  · by_cases hfeed : c = '\n'
    · refine ⟨'\n', escapedLines 0 text, ?_, by decide⟩
      rw [escapedLines, if_neg hquote, if_pos hfeed]
    · obtain ⟨d, more, hescaped, hd, -⟩ := exists_escaped_eq hquote hfeed
      refine ⟨d, more ++ escapedLines 0 text, ?_, hd⟩
      rw [escapedLines, if_neg hquote, if_neg hfeed, hescaped, List.cons_append]

/-- Two quotes are written side by side only at the end of a text. -/
theorem not_prefix_escapedLines {row : Nat} (hrow : row < 2) {text : List Char}
    (hne : text ≠ []) (hlast : ¬ (text = ['"'] ∧ row = 0)) (after : List Char) :
    ¬ ['"', '"'] <+: escapedLines (row + 1) text ++ after := by
  obtain ⟨c, text, rfl⟩ := List.exists_cons_of_ne_nil hne
  intro hfront
  by_cases hsecond : c = '"' ∧ row = 0
  · obtain ⟨rfl, rfl⟩ := hsecond
    have htext : text ≠ [] := by
      rintro rfl
      exact hlast ⟨rfl, rfl⟩
    obtain ⟨e, text, rfl⟩ := List.exists_cons_of_ne_nil htext
    obtain ⟨d, more, hmore, hd⟩ := exists_escapedLines_eq (Or.inr rfl : e ≠ '"' ∨ 2 = 2) text
    rw [escapedLines, if_pos rfl, if_neg (by decide), hmore] at hfront
    simp only [List.cons_append, List.cons_prefix_cons] at hfront
    exact hd hfront.2.1.symm
  · have hfirst : c ≠ '"' ∨ row + 1 = 2 := by
      by_cases hquote : c = '"'
      · have : row ≠ 0 := fun h => hsecond ⟨hquote, h⟩
        exact Or.inr (by omega)
      · exact Or.inl hquote
    obtain ⟨d, more, hmore, hd⟩ := exists_escapedLines_eq hfirst text
    rw [hmore, List.cons_append, List.cons_prefix_cons] at hfront
    exact hd hfront.1.symm

/-- A text with escapes for many lines is read up to the closing quotes.  Of quotes at its end
that stand right before these, all belong to the text. -/
theorem basicLines_escapedLines (hafter : Stops isQuote after) (text : List Char) {row : Nat}
    (hrow : row ≤ 2) :
    basicLines false (escapedLines row text ++ '"' :: '"' :: '"' :: after) =
      some (text, after) := by
  have hclose : ∀ count ≤ 2,
      basicLines false (List.replicate count '"' ++ '"' :: '"' :: '"' :: after) =
        some (List.replicate count '"', after) := by
    intro count hcount
    rw [replicate_append_closing, basicLines, closing_replicate hafter rfl hcount]
  induction text generalizing row with
  | nil => exact hclose 0 (by decide)
  | cons c text ih =>
    by_cases hquote : c = '"'
    · subst hquote
      by_cases hthird : row = 2
      · have hquote : ('"', '"') ∈ shortEscapes := by decide
        rw [escapedLines, if_pos rfl, if_pos hthird, List.cons_append, List.cons_append,
          readsEscapes_basicLines.letter hquote, ih (by decide)]
        rfl
      · rw [escapedLines, if_pos rfl, if_neg hthird]
        by_cases hend : text = []
        · rw [hend]
          exact hclose 1 (by decide)
        · by_cases hlast : text = ['"'] ∧ row = 0
          · rw [hlast.1, hlast.2]
            exact hclose 2 (by decide)
          · have hnext := not_prefix_escapedLines (by omega) hend hlast
              ('"' :: '"' :: '"' :: after)
            rw [List.cons_append, basicLines_cons rfl (by decide) fun _ => hnext, ih (by omega)]
            rfl
    · by_cases hfeed : c = '\n'
      · rw [escapedLines, if_neg hquote, if_pos hfeed, List.cons_append, basicLines,
          if_neg Bool.false_ne_true, ih (by decide), hfeed]
        rfl
      · rw [escapedLines, if_neg hquote, if_neg hfeed, List.append_assoc,
          readsEscapes_basicLines.escaped hquote hfeed, ih (by decide)]
        rfl

/-! ## Strings on many lines, without escapes -/

/-- A character that does not start three quotes is read as it is. -/
theorem literalLines_cons {c : Char} {rest : List Char} (hplain : isPlain c = true ∨ c = '\n')
    (h : c = '\'' → ¬ ['\'', '\''] <+: rest) :
    literalLines (c :: rest) = before (some c) (literalLines rest) := by
  rw [literalLines, if_pos hplain]
  · rintro others rfl rfl
    exact h rfl (List.prefix_append ['\'', '\''] others)
  · rintro others rfl
    rcases hplain with hplain | hplain
    · exact absurd hplain (by decide)
    · exact absurd hplain (by decide)

/-- Without three quotes in a row two stand side by side only at the end of a text. -/
theorem not_prefix_of_not_row {text : List Char} (hrow : ¬ List.replicate 3 '\'' <:+: '\'' :: text)
    (hne : text ≠ []) (hlast : text ≠ ['\'']) (after : List Char) :
    ¬ ['\'', '\''] <+: text ++ after := by
  rcases text with _ | ⟨c, _ | ⟨d, text⟩⟩
  · exact absurd rfl hne
  · intro hfront
    rw [List.cons_append, List.cons_prefix_cons] at hfront
    exact hlast (by rw [hfront.1])
  · intro hfront
    simp only [List.cons_append, List.cons_prefix_cons] at hfront
    obtain ⟨rfl, rfl, -⟩ := hfront
    exact hrow (List.prefix_append (List.replicate 3 '\'') text).isInfix

/-- A text without three quotes in a row is read up to the closing quotes. -/
theorem literalLines_of_plain (hafter : Stops isQuote after) {text : List Char}
    (hplain : ∀ c ∈ text, isPlain c = true ∨ c = '\n')
    (hrow : ¬ List.replicate 3 '\'' <:+: text) :
    literalLines (text ++ '\'' :: '\'' :: '\'' :: after) = some (text, after) := by
  have hclose : ∀ count ≤ 2,
      literalLines (List.replicate count '\'' ++ '\'' :: '\'' :: '\'' :: after) =
        some (List.replicate count '\'', after) := by
    intro count hcount
    rw [replicate_append_closing, literalLines, closing_replicate hafter rfl hcount]
  induction text with
  | nil => exact hclose 0 (by decide)
  | cons c text ih =>
    by_cases hend : c = '\'' ∧ (text = [] ∨ text = ['\''])
    · obtain ⟨rfl, rfl | rfl⟩ := hend
      · exact hclose 1 (by decide)
      · exact hclose 2 (by decide)
    · rw [not_and, not_or] at hend
      have htext : ¬ List.replicate 3 '\'' <:+: text := fun h =>
        hrow (h.trans (List.suffix_cons c text).isInfix)
      rw [List.cons_append, literalLines_cons (hplain c List.mem_cons_self),
        ih (fun d hd => hplain d (List.mem_cons_of_mem _ hd)) htext]
      · rfl
      · rintro rfl
        exact not_prefix_of_not_row hrow (hend rfl).1 (hend rfl).2 _

/-! ## Any string -/

/-- Without a line feed among the first characters nothing is skipped behind the opening
quotes. -/
theorem pastFirstLineEnd_cons {c : Char} (hc : c ≠ '\n' ∧ c ≠ '\r') (rest : List Char) :
    pastFirstLineEnd (c :: rest) = c :: rest := by
  have hline : lineEnd? (c :: rest) = none := by
    unfold lineEnd?
    split
    · rename_i heq
      exact absurd (List.cons.inj heq).1 hc.1
    · rename_i heq
      exact absurd (List.cons.inj heq).1 hc.2
    · rfl
  rw [pastFirstLineEnd, hline]
  rfl

/-- The line feed that is put behind the opening quotes is skipped, and nothing else is. -/
theorem pastFirstLineEnd_openingLine {text rest : List Char}
    (hrest : '\n' ∉ text → ∀ c ∈ rest.head?, c ≠ '\n' ∧ c ≠ '\r') :
    pastFirstLineEnd (openingLine text ++ rest) = rest := by
  by_cases hfeed : '\n' ∈ text
  · have hopening : openingLine text = ['\n'] := if_pos (List.contains_iff_mem.mpr hfeed)
    rw [hopening]
    rfl
  · have hopening : openingLine text = [] := if_neg (by simpa using hfeed)
    rw [hopening, List.nil_append]
    cases rest with
    | nil => rfl
    | cons c rest => exact pastFirstLineEnd_cons (hrest hfeed c rfl) rest

/-- One double quote opens a basic string on one line. -/
theorem string?_double {rest : List Char} (h : ¬ ['"', '"'] <+: rest) :
    string? ('"' :: rest) = basicBody rest := by
  rw [string?]
  rintro others rfl
  exact h (List.prefix_append ['"', '"'] others)

theorem string?_single {rest : List Char} (h : ¬ ['\'', '\''] <+: rest) :
    string? ('\'' :: rest) = literalBody rest := by
  rw [string?]
  rintro others rfl
  exact h (List.prefix_append ['\'', '\''] others)

/-- A text written as a basic string is read back. -/
theorem string?_basic (hafter : Stops isQuote after) (text : List Char) :
    string? (StringForm.basic.write text ++ after) = some (text, after) := by
  have hwritten : StringForm.basic.write text ++ after =
      '"' :: (escapedLine text ++ '"' :: after) := by
    simp [StringForm.write]
  have hopen : ¬ ['"', '"'] <+: escapedLine text ++ '"' :: after := by
    intro hfront
    cases text with
    | nil =>
      obtain ⟨rest, hrest⟩ := (List.cons_prefix_cons.mp hfront).2
      exact ne_of_stops_isQuote hafter rfl rest hrest.symm
    | cons c text =>
      obtain ⟨d, more, hmore, hd⟩ : ∃ d more, escapedLine (c :: text) = d :: more ∧ d ≠ '"' := by
        rw [escapedLine, List.flatMap_cons]
        split
        · exact ⟨'\\', _, rfl, by decide⟩
        · split
          · exact ⟨'\\', _, rfl, by decide⟩
          · rename_i hquote hfeed
            obtain ⟨d, more, hescaped, hd, -⟩ := exists_escaped_eq hquote hfeed
            exact ⟨d, more ++ escapedLine text, by rw [hescaped]; rfl, hd⟩
      rw [hmore, List.cons_append, List.cons_prefix_cons] at hfront
      exact hd hfront.1.symm
  rw [hwritten, string?_double hopen, basicBody_escapedLine]

theorem string?_basicLines (hafter : Stops isQuote after) (text : List Char) :
    string? (StringForm.basicLines.write text ++ after) = some (text, after) := by
  have hwritten : StringForm.basicLines.write text ++ after =
      '"' :: '"' :: '"' :: (openingLine text ++
        (escapedLines 0 text ++ '"' :: '"' :: '"' :: after)) := by
    simp [StringForm.write]
  have hfirst : '\n' ∉ text →
      ∀ c ∈ (escapedLines 0 text ++ '"' :: '"' :: '"' :: after).head?, c ≠ '\n' ∧ c ≠ '\r' := by
    intro hfeed c hc
    cases text with
    | nil =>
      obtain rfl := Option.some.inj hc
      decide
    | cons d text =>
      have hd : d ≠ '\n' := fun h => hfeed (h ▸ List.mem_cons_self)
      by_cases hquote : d = '"'
      · rw [escapedLines, if_pos hquote, if_neg (by decide)] at hc
        obtain rfl := Option.some.inj hc
        decide
      · obtain ⟨e, more, hescaped, -, he⟩ := exists_escaped_eq hquote hd
        rw [escapedLines, if_neg hquote, if_neg hd, hescaped] at hc
        obtain rfl := Option.some.inj hc
        exact he
  rw [hwritten, string?, pastFirstLineEnd_openingLine hfirst,
    basicLines_escapedLines hafter text (by decide)]

/-- A plain text without single quotes is read back from a literal string. -/
theorem string?_literal (hafter : Stops isQuote after) {text : List Char}
    (hplain : ∀ c ∈ text, isPlain c = true) (hquote : '\'' ∉ text) :
    string? (StringForm.literal.write text ++ after) = some (text, after) := by
  have hwritten : StringForm.literal.write text ++ after =
      '\'' :: (text ++ '\'' :: after) := by
    simp [StringForm.write]
  have hopen : ¬ ['\'', '\''] <+: text ++ '\'' :: after := by
    intro hfront
    cases text with
    | nil =>
      obtain ⟨rest, hrest⟩ := (List.cons_prefix_cons.mp hfront).2
      exact ne_of_stops_isQuote hafter rfl rest hrest.symm
    | cons c text =>
      rw [List.cons_append, List.cons_prefix_cons] at hfront
      exact hquote (hfront.1 ▸ List.mem_cons_self)
  rw [hwritten, string?_single hopen, literalBody_of_plain hplain hquote]

/-- A text without three single quotes in a row is read back from a literal string on several
lines. -/
theorem string?_literalLines (hafter : Stops isQuote after) {text : List Char}
    (hplain : ∀ c ∈ text, isPlain c = true ∨ c = '\n')
    (hrow : ¬ List.replicate 3 '\'' <:+: text) :
    string? (StringForm.literalLines.write text ++ after) = some (text, after) := by
  have hwritten : StringForm.literalLines.write text ++ after =
      '\'' :: '\'' :: '\'' :: (openingLine text ++
        (text ++ '\'' :: '\'' :: '\'' :: after)) := by
    simp [StringForm.write]
  have hfirst : '\n' ∉ text →
      ∀ c ∈ (text ++ '\'' :: '\'' :: '\'' :: after).head?, c ≠ '\n' ∧ c ≠ '\r' := by
    intro hfeed c hc
    cases text with
    | nil =>
      obtain rfl := Option.some.inj hc
      decide
    | cons d text =>
      obtain rfl := Option.some.inj hc
      rcases hplain d List.mem_cons_self with hd | rfl
      · exact ne_of_isPlain hd
      · exact absurd List.mem_cons_self hfeed
  rw [hwritten, string?, pastFirstLineEnd_openingLine hfirst,
    literalLines_of_plain hafter hplain hrow]

/-- Any string is read back in the form that is chosen for it. -/
theorem string?_write (hafter : Stops isQuote after) (text : List Char) :
    string? ((StringForm.of text).write text ++ after) = some (text, after) := by
  have hplain : text.any needsEscape = false → ∀ c ∈ text, isPlain c = true ∨ c = '\n' := by
    intro hcontrol c hc
    by_cases hfeed : c = '\n'
    · exact Or.inr hfeed
    · rw [List.any_eq_false] at hcontrol
      exact Or.inl (isPlain_of_not_needsEscape (by simpa using hcontrol c hc) hfeed)
  unfold StringForm.of
  simp only
  split
  · exact string?_basic hafter text
  split
  · rename_i hform
    simp only [Bool.and_eq_true, Bool.not_eq_true', List.contains_eq_mem,
      decide_eq_false_iff_not] at hform
    obtain ⟨⟨hcontrol, hquote⟩, hfeed⟩ := hform
    refine string?_literal hafter (fun c hc => ?_) hquote
    exact (hplain hcontrol c hc).resolve_right fun h => hfeed (h ▸ hc)
  split
  · exact string?_basicLines hafter text
  split
  · rename_i hform
    rw [Bool.and_eq_true, Bool.not_eq_true', Bool.not_eq_true'] at hform
    refine string?_literalLines hafter (hplain hform.1) ?_
    rw [← hasRow_iff, hform.2]
    exact Bool.false_ne_true
  split
  · exact string?_basicLines hafter text
  · exact string?_basic hafter text

/-! ## Rows that are too long -/

/-- A text with too many quotes in a row. -/
def HasLongRow (text : List Char) : Prop :=
  ∃ quote ∈ ['\'', '"'], List.replicate rowLimit quote <:+: text

/-- What is counted is whether there is a row that is too long. -/
theorem hasLongRow_iff {text : List Char} :
    HasLongRow text ↔ (hasRow '\'' rowLimit text || hasRow '"' rowLimit text) = true := by
  rw [Bool.or_eq_true, hasRow_iff, hasRow_iff]
  simp [HasLongRow]

/-- Counting a row that is too long is a panic. -/
theorem writeString_of_hasLongRow {text : List Char} (h : HasLongRow text) :
    writeString text = .error .addOverflow :=
  if_pos (hasLongRow_iff.mp h)

/-- Counting rows that are not too long makes no difference to what is written. -/
theorem writeString_of_not_hasLongRow {text : List Char} (h : ¬ HasLongRow text) :
    writeString text = writePlain text :=
  if_neg (mt hasLongRow_iff.mpr h)

end Toml

end ResourceHealth
