import Mathlib
import ResourceHealth.Proofs.Text.Division

/-!
# The words of a text line by line

Who reads the words of a text line by line, and passes over lines without words, does not see
how the text is laid out: blanks at its ends, line feeds among them, and carriage returns
before line feeds change none of its rows of words.

Main definitions:

- `rows`: the words of each line that has any.
- `withReturns`: a text with a carriage return before each line feed.

Main results:

- Theorem `rows_append_cons`: a line feed divides the rows.
- Theorem `rows_trim`: blanks at the ends of a text have no influence on its rows.
- Theorem `rows_withReturns`: neither have carriage returns before line feeds.
-/

namespace ResourceHealth

/-- The words of a text line by line, without the lines that have none. -/
def rows (text : List Char) : List (List (List Char)) :=
  ((lines text).map words).filter (· ≠ [])

/-- A text with a carriage return before each line feed. -/
def withReturns (text : List Char) : List Char :=
  text.flatMap fun c => if c = '\n' then ['\r', '\n'] else [c]

/-! ## Words -/

/-- A gap behind a text has no influence on its words. -/
theorem words_append_gap {gap : List Char} (hgap : ∀ c ∈ gap, isBlank c = true)
    (text : List Char) : words (text ++ gap) = words text := by
  cases gap with
  | nil => rw [List.append_nil]
  | cons blank gap =>
    obtain ⟨hblank, hrest⟩ := List.forall_mem_cons.mp hgap
    have hnone : words gap = [] := by
      have hwords := words_gap_append hrest []
      rwa [List.append_nil] at hwords
    rw [words_append_cons hblank, hnone, List.append_nil]

/-- The carriage return that closes a line is a blank. -/
theorem words_dropReturn (line : List Char) : words (dropReturn line) = words line := by
  unfold dropReturn
  split
  · rename_i hreturn
    obtain ⟨start, rfl⟩ := List.getLast?_eq_some_iff.mp hreturn
    have hblank : ∀ c ∈ ['\r'], isBlank c = true := List.forall_mem_singleton.mpr rfl
    rw [List.dropLast_concat, words_append_gap hblank]
  · rfl

/-! ## Rows -/

/-- It does not matter for the rows how lines are closed. -/
theorem filter_map_words_closeLines (parts : List (List Char)) :
    ((closeLines parts).map words).filter (· ≠ []) = (parts.map words).filter (· ≠ []) := by
  induction parts with
  | nil => rfl
  | cons line rest ih =>
    cases rest with
    | nil =>
      by_cases hempty : line = []
      · subst hempty
        rfl
      · rw [closeLines, if_neg hempty]
    | cons next rest =>
      rw [closeLines, List.map_cons, words_dropReturn, List.filter_cons, ih]
      conv_rhs => rw [List.map_cons, List.filter_cons]

/-- The rows of a text are its lines cut into words, less the blank ones. -/
theorem rows_eq_splitOnP (text : List Char) :
    rows text = ((text.splitOnP (· == '\n')).map words).filter (· ≠ []) := by
  rw [rows, lines, filter_map_words_closeLines, pieces_eq_splitOnP]

/-- A line feed divides the rows. -/
theorem rows_append_cons (first second : List Char) :
    rows (first ++ '\n' :: second) = rows first ++ rows second := by
  simp only [rows_eq_splitOnP]
  rw [List.splitOnP_append_cons first second (by rfl), List.map_append, List.filter_append]

/-- A line break in front does not change the rows. -/
theorem rows_cons (text : List Char) : rows ('\n' :: text) = rows text :=
  rows_append_cons [] text

/-- A text without line feeds has at most one row. -/
theorem rows_of_not_mem {text : List Char} (h : '\n' ∉ text) :
    rows text = [words text].filter (· ≠ []) := by
  rw [rows_eq_splitOnP, splitOnP_of_not_mem h, List.map_singleton]

/-- To show something of all texts it is enough to show it of those without line feeds, and of
one with a line in front. -/
theorem induction_on_feeds {Holds : List Char → Prop} (text : List Char)
    (last : ∀ line, '\n' ∉ line → Holds line)
    (feed : ∀ line rest, '\n' ∉ line → Holds rest → Holds (line ++ '\n' :: rest)) :
    Holds text := by
  induction hlength : text.length using Nat.strongRecOn generalizing text with
  | ind length ih =>
    by_cases hmem : '\n' ∈ text
    · obtain ⟨line, rest, rfl, hline⟩ := List.eq_append_cons_of_mem hmem
      have hshorter : rest.length < length := by
        rw [← hlength, List.length_append, List.length_cons]
        omega
      exact feed line rest hline (ih rest.length hshorter rest rfl)
    · exact last text hmem

/-! ## Blanks at the ends -/

/-- A blank in front of a text is an empty line or stands in its first line. -/
theorem rows_blank_cons {blank : Char} (hblank : isBlank blank = true) (text : List Char) :
    rows (blank :: text) = rows text := by
  by_cases hfeed : blank = '\n'
  · rw [hfeed, rows_cons]
  have hone {line : List Char} (hline : '\n' ∉ line) : rows (blank :: line) = rows line := by
    have hlonger : '\n' ∉ blank :: line := by simp [hline, Ne.symm hfeed]
    rw [rows_of_not_mem hlonger, rows_of_not_mem hline, words_cons hblank]
  induction text using induction_on_feeds with
  | last line hline => exact hone hline
  | feed line rest hline ih =>
    rw [← List.cons_append, rows_append_cons, rows_append_cons, hone hline]

/-- A blank behind a text stands in its last line or is a line feed with nothing behind. -/
theorem rows_append_blank {blank : Char} (hblank : isBlank blank = true) (text : List Char) :
    rows (text ++ [blank]) = rows text := by
  by_cases hfeed : blank = '\n'
  · rw [hfeed, rows_append_cons, show rows [] = [] from rfl, List.append_nil]
  induction text using induction_on_feeds with
  | last line hline =>
    have hlonger : '\n' ∉ line ++ [blank] := by simp [hline, Ne.symm hfeed]
    have hgap : ∀ c ∈ [blank], isBlank c = true := by simpa using hblank
    rw [rows_of_not_mem hlonger, rows_of_not_mem hline, words_append_gap hgap]
  | feed line rest hline ih =>
    rw [List.append_assoc, List.cons_append, rows_append_cons, rows_append_cons, ih]

/-- Blanks in front of a text do not change its rows. -/
theorem rows_gap_append {gap : List Char} (hgap : ∀ c ∈ gap, isBlank c = true)
    (text : List Char) : rows (gap ++ text) = rows text := by
  induction gap with
  | nil => rfl
  | cons blank gap ih =>
    obtain ⟨hblank, hrest⟩ := List.forall_mem_cons.mp hgap
    rw [List.cons_append, rows_blank_cons hblank, ih hrest]

theorem rows_append_gap {gap : List Char} (hgap : ∀ c ∈ gap, isBlank c = true)
    (text : List Char) : rows (text ++ gap) = rows text := by
  induction gap generalizing text with
  | nil => rw [List.append_nil]
  | cons blank gap ih =>
    obtain ⟨hblank, hrest⟩ := List.forall_mem_cons.mp hgap
    rw [List.append_cons, ih hrest, rows_append_blank hblank]

/-- Trimming a text in front does not change its rows. -/
theorem rows_trimStart (text : List Char) : rows (trimStart text) = rows text := by
  have hgap : ∀ c ∈ text.takeWhile isBlank, isBlank c = true := fun c => List.mem_takeWhile_imp
  conv_rhs => rw [← List.takeWhile_append_dropWhile (p := isBlank) (l := text)]
  exact (rows_gap_append hgap _).symm

theorem rows_trimEnd (text : List Char) : rows (trimEnd text) = rows text := by
  have hgap : ∀ c ∈ (text.reverse.takeWhile isBlank).reverse, isBlank c = true :=
    fun c hc => List.mem_takeWhile_imp (List.mem_reverse.mp hc)
  have hsplit : trimEnd text ++ (text.reverse.takeWhile isBlank).reverse = text := by
    rw [trimEnd, ← List.reverse_append, List.takeWhile_append_dropWhile, List.reverse_reverse]
  conv_rhs => rw [← hsplit]
  exact (rows_append_gap hgap _).symm

/-- Blanks at the ends of a text have no influence on its rows. -/
theorem rows_trim (text : List Char) : rows (trim text) = rows text := by
  rw [trim, rows_trimEnd, rows_trimStart]

/-! ## Carriage returns -/

/-- A text without line breaks gets no carriage returns. -/
theorem withReturns_of_not_mem {line : List Char} (h : '\n' ∉ line) :
    withReturns line = line := by
  have hsame : ∀ c ∈ line, (if c = '\n' then ['\r', '\n'] else [c]) = [c] := fun c hc =>
    if_neg (ne_of_mem_of_not_mem hc h)
  rw [withReturns, List.flatMap_congr hsame]
  exact List.flatMap_singleton' line

/-- Behind its first line a text gets a carriage return, and then those of the rest. -/
theorem withReturns_append_cons {line : List Char} (h : '\n' ∉ line) (rest : List Char) :
    withReturns (line ++ '\n' :: rest) = line ++ ['\r'] ++ '\n' :: withReturns rest := by
  have hline := withReturns_of_not_mem h
  simp only [withReturns] at hline ⊢
  rw [List.flatMap_append, hline, List.flatMap_cons, if_pos rfl]
  simp

/-- Carriage returns before line feeds have no influence on the rows. -/
theorem rows_withReturns (text : List Char) : rows (withReturns text) = rows text := by
  induction text using induction_on_feeds with
  | last line hline => rw [withReturns_of_not_mem hline]
  | feed line rest hline ih =>
    rw [withReturns_append_cons hline, rows_append_cons, rows_append_cons, ih,
      rows_append_blank (by decide)]

end ResourceHealth
