import Mathlib
import ResourceHealth.Text.Lines

/-!
# How a text divides

The kernel's texts are cut into lines and these into words.  Here the cut is stated by the
other side: a text is its lines with their endings, one after the other, and a line is its
words with gaps of blanks around and between them.

Main definitions:

- `WordSplit`: a text is made of words and gaps.
- `LineSplit`: a text is made of lines and their endings.

Main results:

- Theorem `words_eq_iff`: the words of a text are those that it is made of.
-/

namespace ResourceHealth

/-! ## Pieces -/

/-- Text is cut at separators as a list is. -/
theorem pieces_eq_splitOnP (isSeparator : Char → Bool) (text : List Char) :
    pieces isSeparator text = text.splitOnP isSeparator := by
  induction text with
  | nil => rfl
  | cons c rest ih =>
    obtain ⟨piece, others, hrest⟩ :=
      List.exists_cons_of_ne_nil (List.splitOnP_ne_nil isSeparator rest)
    rw [List.splitOnP_cons_eq_if_modifyHead, pieces, ih, hrest]
    rfl

/-! ## Words -/

/-- A text that is made of words and gaps: a word is a stretch of at least one character
without a blank, and a blank follows it unless the text ends. -/
inductive WordSplit : List Char → List (List Char) → Prop
  | gap (gap : List Char) (hgap : ∀ c ∈ gap, isBlank c = true) : WordSplit gap []
  | word (gap : List Char) {word rest : List Char} {others : List (List Char)}
      (hgap : ∀ c ∈ gap, isBlank c = true) (hne : word ≠ [])
      (hword : ∀ c ∈ word, isBlank c = false) (hstop : ∀ c ∈ rest.head?, isBlank c = true)
      (hrest : WordSplit rest others) : WordSplit (gap ++ word ++ rest) (word :: others)

/-- A blank divides the words. -/
theorem words_append_cons {blank : Char} (hblank : isBlank blank = true)
    (first second : List Char) :
    words (first ++ blank :: second) = words first ++ words second := by
  simp only [words, pieces_eq_splitOnP]
  rw [List.splitOnP_append_cons first second hblank, List.filter_append]

theorem words_cons {blank : Char} (hblank : isBlank blank = true) (text : List Char) :
    words (blank :: text) = words text :=
  words_append_cons hblank [] text

/-- A gap in front of a text has no influence on its words. -/
theorem words_gap_append {gap : List Char} (hgap : ∀ c ∈ gap, isBlank c = true)
    (text : List Char) : words (gap ++ text) = words text := by
  induction gap with
  | nil => rfl
  | cons blank gap ih =>
    rw [List.cons_append, words_cons (hgap blank List.mem_cons_self)]
    exact ih fun c hc => hgap c (List.mem_cons_of_mem blank hc)

/-- A word, with a gap or nothing behind it, is the first of the words. -/
theorem words_word_append {word rest : List Char} (hne : word ≠ [])
    (hword : ∀ c ∈ word, isBlank c = false) (hstop : ∀ c ∈ rest.head?, isBlank c = true) :
    words (word ++ rest) = word :: words rest := by
  have hone : words word = [word] := by
    rw [words, pieces_eq_splitOnP, List.splitOnP_eq_singleton hword]
    simp [hne]
  cases rest with
  | nil =>
    rw [List.append_nil, hone]
    rfl
  | cons blank rest =>
    have hblank : isBlank blank = true := hstop blank rfl
    rw [words_append_cons hblank, words_cons hblank, hone]
    rfl

namespace WordSplit

variable {text : List Char} {ws : List (List Char)}

/-- The words of a text are those that it is made of. -/
theorem words_eq (h : WordSplit text ws) : words text = ws := by
  induction h with
  | gap gap hgap =>
    have hwords := words_gap_append hgap []
    rwa [List.append_nil] at hwords
  | word gap hgap hne hword hstop _ ih =>
    rw [List.append_assoc, words_gap_append hgap, words_word_append hne hword hstop, ih]

/-- A blank in front makes a gap longer. -/
theorem cons_blank {blank : Char} (hblank : isBlank blank = true) (h : WordSplit text ws) :
    WordSplit (blank :: text) ws := by
  cases h with
  | gap gap hgap => exact .gap (blank :: text) (List.forall_mem_cons.mpr ⟨hblank, hgap⟩)
  | word gap hgap hne hword hstop hrest =>
    exact .word (blank :: gap) (List.forall_mem_cons.mpr ⟨hblank, hgap⟩) hne hword hstop hrest

/-- Another character in front makes the first word longer, or is a word of its own. -/
theorem exists_cons {c : Char} (hc : isBlank c = false) (h : WordSplit text ws) :
    ∃ others, WordSplit (c :: text) others := by
  have hsingle : ∀ d ∈ [c], isBlank d = false := by simpa using hc
  by_cases hstop : ∀ d ∈ text.head?, isBlank d = true
  · exact ⟨[c] :: ws, .word [] (by simp) (by simp) hsingle hstop h⟩
  · cases h with
    | gap gap hgap =>
      refine absurd (fun d hd => ?_) hstop
      exact hgap d (List.mem_of_mem_head? hd)
    | @word gap word rest others hgap _ hword hrest hothers =>
      cases gap with
      | nil =>
        have hlonger : ∀ d ∈ c :: word, isBlank d = false :=
          List.forall_mem_cons.mpr ⟨hc, hword⟩
        exact ⟨(c :: word) :: others,
          .word [] (by simp) (List.cons_ne_nil c word) hlonger hrest hothers⟩
      | cons blank gap =>
        refine absurd (fun d hd => ?_) hstop
        obtain rfl : blank = d := by simpa using hd
        exact hgap blank List.mem_cons_self

/-- Every text is made of words and gaps. -/
theorem exists_words (text : List Char) : ∃ ws, WordSplit text ws := by
  induction text with
  | nil => exact ⟨[], .gap [] (by simp)⟩
  | cons c rest ih =>
    obtain ⟨ws, hrest⟩ := ih
    cases hc : isBlank c with
    | true => exact ⟨ws, hrest.cons_blank hc⟩
    | false => exact hrest.exists_cons hc

end WordSplit

/-- Splitting a text into words gives the words that it is made up of. -/
theorem words_eq_iff {text : List Char} {ws : List (List Char)} :
    words text = ws ↔ WordSplit text ws := by
  constructor
  · rintro rfl
    obtain ⟨ws, h⟩ := WordSplit.exists_words text
    rwa [h.words_eq]
  · exact WordSplit.words_eq

/-! ## Lines -/

/-- A text that is made of lines and their endings: a line feed, or a carriage return and a
line feed.  What stands behind the last ending is a line only if it is not empty, and keeps a
carriage return. -/
inductive LineSplit : List Char → List (List Char) → Prop
  | nil : LineSplit [] []
  | last {line : List Char} (hne : line ≠ []) (hline : '\n' ∉ line) : LineSplit line [line]
  | feed {line rest : List Char} {others : List (List Char)} (hline : '\n' ∉ line)
      (hreturn : line.getLast? ≠ some '\r') (hrest : LineSplit rest others) :
      LineSplit (line ++ '\n' :: rest) (line :: others)
  | returnFeed {line rest : List Char} {others : List (List Char)} (hline : '\n' ∉ line)
      (hrest : LineSplit rest others) : LineSplit (line ++ '\r' :: '\n' :: rest) (line :: others)

/-- A text without line feeds is one piece. -/
theorem splitOnP_of_not_mem {text : List Char} (h : '\n' ∉ text) :
    text.splitOnP (· == '\n') = [text] :=
  List.splitOnP_eq_singleton fun _ hc => beq_eq_false_iff_ne.mpr (ne_of_mem_of_not_mem hc h)

/-- A text without line feeds is no more than one line. -/
theorem lines_of_not_mem {text : List Char} (h : '\n' ∉ text) :
    lines text = if text = [] then [] else [text] := by
  rw [lines, pieces_eq_splitOnP, splitOnP_of_not_mem h]
  rfl

/-- The first line feed ends the first line. -/
theorem lines_append_cons {line : List Char} (hline : '\n' ∉ line) (rest : List Char) :
    lines (line ++ '\n' :: rest) = dropReturn line :: lines rest := by
  obtain ⟨piece, others, hrest⟩ :=
    List.exists_cons_of_ne_nil (List.splitOnP_ne_nil (· == '\n') rest)
  simp only [lines, pieces_eq_splitOnP]
  rw [List.splitOnP_append_cons line rest (by rfl), splitOnP_of_not_mem hline, hrest]
  rfl

namespace LineSplit

variable {text : List Char} {ls : List (List Char)}

/-- The lines of a text are those that it is made of. -/
theorem lines_eq (h : LineSplit text ls) : lines text = ls := by
  induction h with
  | nil => rfl
  | last hne hline => rw [lines_of_not_mem hline, if_neg hne]
  | feed hline hreturn _ ih => rw [lines_append_cons hline, ih, dropReturn, if_neg hreturn]
  | @returnFeed line rest _ hline _ ih =>
    have hlonger : '\n' ∉ line ++ ['\r'] := by simpa using hline
    have hclosed : dropReturn (line ++ ['\r']) = line := by simp [dropReturn]
    rw [List.append_cons, lines_append_cons hlonger, ih, hclosed]

/-- A line in front, with the line feed that ends it. -/
theorem exists_append_cons {line : List Char} (hline : '\n' ∉ line) (h : LineSplit text ls) :
    ∃ others, LineSplit (line ++ '\n' :: text) others := by
  by_cases hreturn : line.getLast? = some '\r'
  · obtain ⟨start, rfl⟩ := List.getLast?_eq_some_iff.mp hreturn
    have hstart : '\n' ∉ start := fun hmem => hline (List.mem_append_left _ hmem)
    rw [List.append_assoc]
    exact ⟨start :: ls, .returnFeed hstart h⟩
  · exact ⟨line :: ls, .feed hline hreturn h⟩

/-- Every text is made of lines and their endings. -/
theorem exists_lines (text : List Char) : ∃ ls, LineSplit text ls := by
  induction hlength : text.length using Nat.strongRecOn generalizing text with
  | ind length ih =>
    by_cases hmem : '\n' ∈ text
    · obtain ⟨line, rest, rfl, hline⟩ := List.eq_append_cons_of_mem hmem
      have hshorter : rest.length < length := by
        rw [← hlength, List.length_append, List.length_cons]
        omega
      obtain ⟨ls, hrest⟩ := ih rest.length hshorter rest rfl
      exact hrest.exists_append_cons hline
    · cases text with
      | nil => exact ⟨[], .nil⟩
      | cons c rest => exact ⟨[c :: rest], .last (List.cons_ne_nil c rest) hmem⟩

end LineSplit

end ResourceHealth
