import Mathlib
import ResourceHealth.Proofs.Text.Rows
import ResourceHealth.Source.Memory
import ResourceHealth.Source.Processor

/-!
# The layout of a source's text

Ticks and memory are read from the words of a text line by line, and lines without words say
nothing.  So the blanks at the ends of a text, which are dropped when a file is read, have no
influence on what it says, nor has the way in which its lines end: neither on the figures nor
on the errors.

Main results:

- Theorems `Jiffies.parse_congr` and `Memory.parse_congr`: texts with the same rows of words
  say the same.
- Theorem `Host.readings_of_any_layout`: what has no influence on a reading.
-/

namespace ResourceHealth

variable {path : Path} {text other : List Char}

/-! ## Ticks -/

namespace Jiffies

/-- The first line with the label is the first row with it. -/
theorem map_find?_isAggregate (text : List Char) :
    ((lines text).find? isAggregate).map words =
      (rows text).find? (·.head? == some label) := by
  rw [rows, List.find?_filter, List.find?_map]
  congr 2
  funext line
  cases hwords : words line with
  | nil => simp [isAggregate, hwords]
  | cons word behind => simp [isAggregate, hwords, beq_eq_decide]

/-- The counters of a line depend on its words only. -/
theorem counters_congr {line another : List Char} (h : words line = words another) :
    counters line = counters another := by
  rw [counters, counters, h]

/-- Texts with the same rows give the same ticks, or fail in the same way. -/
theorem parse_congr (h : rows text = rows other) : parse path text = parse path other := by
  have hfound : ((lines text).find? isAggregate).map words =
      ((lines other).find? isAggregate).map words := by
    rw [map_find?_isAggregate, map_find?_isAggregate, h]
  unfold parse
  cases htext : (lines text).find? isAggregate with
  | none =>
    cases hother : (lines other).find? isAggregate with
    | none => rfl
    | some line => simp [htext, hother] at hfound
  | some line =>
    cases hother : (lines other).find? isAggregate with
    | none => simp [htext, hother] at hfound
    | some another =>
      have hwords : words line = words another := by simpa [htext, hother] using hfound
      simp only [counters_congr hwords]

end Jiffies

/-! ## Memory -/

namespace Memory

variable {scan : Scan} {ls others : List (List Char)}

/-- Not both figures have been found. -/
def Scan.IsIncomplete (scan : Scan) : Prop :=
  ¬ (scan.total.isSome ∧ scan.available.isSome)

/-- A blank line changes nothing. -/
theorem readLine_of_words_eq_nil {line : List Char} (h : words line = []) (scan : Scan) :
    scan.readLine line = .ok scan := by
  rw [Scan.readLine, h]

/-- What is scanned of a line depends on its words only. -/
theorem readLine_congr {line another : List Char} (h : words line = words another) (scan : Scan) :
    scan.readLine line = scan.readLine another := by
  rw [Scan.readLine, Scan.readLine, h]

/-- As long as a figure is missing, lines without words may be passed over. -/
theorem readLines_filter (hopen : scan.IsIncomplete) (ls : List (List Char)) :
    scan.readLines (ls.filter (words · ≠ [])) = scan.readLines ls := by
  induction ls generalizing scan with
  | nil => rfl
  | cons line rest ih =>
    by_cases hnone : words line = []
    · have hskip : scan.readLines (line :: rest) = scan.readLines rest := by
        rw [Scan.readLines, readLine_of_words_eq_nil hnone]
        exact if_neg hopen
      rw [List.filter_cons_of_neg (by simpa using hnone), hskip, ih hopen]
    · rw [List.filter_cons_of_pos (by simpa using hnone), Scan.readLines, Scan.readLines]
      cases scan.readLine line with
      | error cause => rfl
      | ok now =>
        by_cases hnow : now.total.isSome ∧ now.available.isSome
        · simp only [hnow, and_self, if_true]
        · simp only [hnow, if_false]
          exact ih hnow

/-- Lines are read by their words. -/
theorem readLines_congr (h : ls.map words = others.map words) (scan : Scan) :
    scan.readLines ls = scan.readLines others := by
  induction ls generalizing scan others with
  | nil =>
    rw [List.map_nil, eq_comm, List.map_eq_nil_iff] at h
    rw [h]
  | cons line rest ih =>
    obtain ⟨another, more, rfl, hline, hrest⟩ := List.map_eq_cons_iff.mp h.symm
    rw [Scan.readLines, Scan.readLines, readLine_congr hline.symm]
    cases scan.readLine another with
    | error cause => rfl
    | ok now =>
      by_cases hnow : now.total.isSome ∧ now.available.isSome
      · simp only [hnow, and_self, if_true]
      · simp only [hnow, if_false]
        exact ih hrest.symm now

/-- Texts with the same rows give the same memory, or fail in the same way. -/
theorem parse_congr (h : rows text = rows other) : parse path text = parse path other := by
  have hopen : Scan.IsIncomplete {} := by simp [Scan.IsIncomplete]
  have hlines : ((lines text).filter (words · ≠ [])).map words =
      ((lines other).filter (words · ≠ [])).map words := by
    simpa only [rows, List.filter_map, Function.comp_def] using h
  have hscanned : Scan.readLines {} (lines text) = Scan.readLines {} (lines other) := by
    rw [← readLines_filter hopen (lines text), readLines_congr hlines, readLines_filter hopen]
  rw [parse, parse, hscanned]

end Memory

/-! ## Readings -/

/-- A text says the same about ticks and memory without the blanks at its ends, with a carriage
return before each line feed, and without the blanks at the ends of that: the same figures,
the same error with the same word or the same number of words, or the same panic.  So a file
says what its text says, of which the blanks at the ends are dropped when it is read. -/
theorem Host.readings_of_any_layout (path : Path) (text : List Char) :
    (Jiffies.parse path (trim text) = Jiffies.parse path text ∧
        Memory.parse path (trim text) = Memory.parse path text) ∧
      (Jiffies.parse path (withReturns text) = Jiffies.parse path text ∧
        Memory.parse path (withReturns text) = Memory.parse path text) ∧
      (Jiffies.parse path (trim (withReturns text)) = Jiffies.parse path text ∧
        Memory.parse path (trim (withReturns text)) = Memory.parse path text) ∧
      ∀ host : Host, host.present path = true →
        (host.text path = .ok text ∨ host.text path = .ok (withReturns text)) →
        ProcessorMeter.ticks path host = Jiffies.parse path text ∧
          Memory.read path host = Memory.parse path text := by
  have htrim : rows (trim text) = rows text := rows_trim text
  have hreturns : rows (withReturns text) = rows text := rows_withReturns text
  have hboth : rows (trim (withReturns text)) = rows text := (rows_trim _).trans hreturns
  refine ⟨⟨Jiffies.parse_congr htrim, Memory.parse_congr htrim⟩,
    ⟨Jiffies.parse_congr hreturns, Memory.parse_congr hreturns⟩,
    ⟨Jiffies.parse_congr hboth, Memory.parse_congr hboth⟩, ?_⟩
  intro host hpresent hread
  rw [ProcessorMeter.ticks, Memory.read, Host.sourceText, if_pos hpresent]
  rcases hread with hread | hread
  · rw [hread]
    exact ⟨Jiffies.parse_congr htrim, Memory.parse_congr htrim⟩
  · rw [hread]
    exact ⟨Jiffies.parse_congr hboth, Memory.parse_congr hboth⟩

end ResourceHealth
