import Mathlib
import ResourceHealth.Proofs.Digits
import ResourceHealth.Proofs.Source.Overflow
import ResourceHealth.Proofs.Text.Division

/-!
# What the kernel's text says about the ticks

What a text of the kernel says about the ticks, stated by its lines and words and not from the
way in which they are searched.  Every text has such a meaning, and reading the text gives
nothing else, so that the format is told in both directions: which texts are accepted, and
which of several faults of a text is the one that is reported.

Main definitions:

- `Jiffies.AggregateLine`: a line for all processors together.
- `Jiffies.CounterWords`: the words of a text that have to be counters.
- `Jiffies.ParseOutcome`: what a text says about the ticks, one case for each kind of outcome.

Main results:

- Theorem `Jiffies.exists_parseOutcome`: every text has a meaning.
- Theorem `Jiffies.ParseOutcome.parse_eq`: reading a text gives its meaning.
- Theorem `Jiffies.ticks_of_any_text`: the two together, and what has no influence.
-/

namespace ResourceHealth

/-! ## Reading word by word -/

section Traversal

variable {Item Result Failure : Type} {read : Item → Except Failure Result}

/-- A traversal of items that can all be read gives what they are read as. -/
theorem mapM_of_forall₂ {items : List Item} {results : List Result}
    (h : List.Forall₂ (fun item result => read item = .ok result) items results) :
    items.mapM read = .ok results := by
  induction h with
  | nil => rfl
  | cons hitem _ ih =>
    rw [List.mapM_cons, hitem, ih]
    rfl

/-- A traversal fails as its first item that cannot be read. -/
theorem mapM_of_error {good more : List Item} {bad : Item} {failure : Failure}
    (hgood : ∀ item ∈ good, ∃ result, read item = .ok result)
    (hbad : read bad = .error failure) :
    (good ++ bad :: more).mapM read = .error failure := by
  induction good with
  | nil =>
    rw [List.nil_append, List.mapM_cons, hbad]
    rfl
  | cons item good ih =>
    obtain ⟨result, hitem⟩ := hgood item List.mem_cons_self
    have hrest := ih fun other hother => hgood other (List.mem_cons_of_mem item hother)
    rw [List.cons_append, List.mapM_cons, hitem, hrest]
    rfl

end Traversal

/-- Words that are all literals stand for counters. -/
theorem Counter.exists_literals {ws : List (List Char)}
    (h : ∀ word ∈ ws, ∃ n, Literal word n) : ∃ counts, List.Forall₂ Literal ws counts := by
  induction ws with
  | nil => exact ⟨[], .nil⟩
  | cons word ws ih =>
    obtain ⟨n, hword⟩ := h word List.mem_cons_self
    obtain ⟨counts, hcounts⟩ := ih fun other hother => h other (List.mem_cons_of_mem word hother)
    exact ⟨n :: counts, .cons hword hcounts⟩

/-- Of the members of a list that have a property, one is the first. -/
theorem exists_first {Item : Type} {Holds : Item → Prop} {items : List Item}
    (h : ∃ item ∈ items, Holds item) :
    ∃ before item after, items = before ++ item :: after ∧ Holds item ∧
      ∀ other ∈ before, ¬ Holds other := by
  induction items with
  | nil =>
    obtain ⟨item, hmem, -⟩ := h
    cases hmem
  | cons first rest ih =>
    by_cases hfirst : Holds first
    · exact ⟨[], first, rest, rfl, hfirst, by simp⟩
    · obtain ⟨before, item, after, rfl, hitem, hbefore⟩ := ih (by simpa [hfirst] using h)
      exact ⟨first :: before, item, after, rfl, hitem,
        List.forall_mem_cons.mpr ⟨hfirst, hbefore⟩⟩

namespace Jiffies

variable {path : Path} {text line : List Char} {ws : List (List Char)} {counts : List Nat}
  {outcome : Except Fault Jiffies}

/-! ## The meaning of a text -/

/-- A line for all processors together, with the words behind its label. -/
def AggregateLine (line : List Char) (behind : List (List Char)) : Prop :=
  WordSplit line (label :: behind)

/-- The words of a text that have to be counters: the first eight, or fewer if there are no
more, behind the label of the first line that has the label. -/
def CounterWords (text : List Char) (ws : List (List Char)) : Prop :=
  ∃ before line after behind, LineSplit text (before ++ line :: after) ∧
    (∀ other ∈ before, ∀ more, ¬ AggregateLine other more) ∧ AggregateLine line behind ∧
    ws = behind.take 8

/-- What a text says about the ticks.  A word that is no counter counts more than that there
are too few of them. -/
inductive ParseOutcome (path : Path) (text : List Char) : Except Fault Jiffies → Prop
  /-- No line has the label. -/
  | noLine {ls : List (List Char)} (hlines : LineSplit text ls)
      (hnone : ∀ line ∈ ls, ∀ behind, ¬ AggregateLine line behind) :
      ParseOutcome path text (.error (.error (.unparsable path .noProcessorLine)))
  /-- The first of the words that is no counter. -/
  | badWord {good more : List (List Char)} {bad : List Char}
      (hcounterWords : CounterWords text (good ++ bad :: more))
      (hgood : ∀ word ∈ good, ∃ n, Counter.Literal word n)
      (hbad : ∀ n, ¬ Counter.Literal bad n) :
      ParseOutcome path text (.error (.error (.unparsable path (.badJiffies bad))))
  /-- There are fewer than four counters. -/
  | fewWords {ws : List (List Char)} {counts : List Nat} (hcounterWords : CounterWords text ws)
      (hcounts : List.Forall₂ Counter.Literal ws counts) (hfew : ws.length < 4) :
      ParseOutcome path text (.error (.error (.unparsable path (.fewCounters ws.length))))
  /-- The counters do not add up to one. -/
  | overflow {ws : List (List Char)} {counts : List Nat} (hcounterWords : CounterWords text ws)
      (hcounts : List.Forall₂ Counter.Literal ws counts) (henough : 4 ≤ ws.length)
      (hsum : 2 ^ 64 ≤ counts.sum) : ParseOutcome path text (.error (.panic .addOverflow))
  /-- The fourth and the fifth counter are idle ticks, and all of them are the total. -/
  | ticks {ws : List (List Char)} {counts : List Nat} (hcounterWords : CounterWords text ws)
      (hcounts : List.Forall₂ Counter.Literal ws counts) (henough : 4 ≤ ws.length)
      (hsum : counts.sum < 2 ^ 64) :
      ParseOutcome path text (.ok ⟨counts.getD 3 0 + counts.getD 4 0, counts.sum⟩)

/-- Every text has a meaning. -/
theorem exists_parseOutcome (path : Path) (text : List Char) :
    ∃ outcome, ParseOutcome path text outcome := by
  obtain ⟨ls, hlines⟩ := LineSplit.exists_lines text
  by_cases hlabel : ∃ line ∈ ls, ∃ behind, AggregateLine line behind
  · obtain ⟨before, line, after, rfl, ⟨behind, hline⟩, hbefore⟩ := exists_first hlabel
    have hcounterWords : CounterWords text (behind.take 8) :=
      ⟨before, line, after, behind, hlines, fun other hmem more hother =>
        hbefore other hmem ⟨more, hother⟩, hline, rfl⟩
    by_cases hbad : ∃ word ∈ behind.take 8, ∀ n, ¬ Counter.Literal word n
    · obtain ⟨good, bad, more, hsplit, hword, hgood⟩ := exists_first hbad
      rw [hsplit] at hcounterWords
      exact ⟨_, .badWord hcounterWords (by simpa using hgood) hword⟩
    · obtain ⟨counts, hcounts⟩ := Counter.exists_literals (by simpa using hbad)
      by_cases hfew : (behind.take 8).length < 4
      · exact ⟨_, .fewWords hcounterWords hcounts hfew⟩
      · by_cases hsum : counts.sum < 2 ^ 64
        · exact ⟨_, .ticks hcounterWords hcounts (Nat.le_of_not_lt hfew) hsum⟩
        · exact ⟨_, .overflow hcounterWords hcounts (Nat.le_of_not_lt hfew) (Nat.le_of_not_lt hsum)⟩
  · exact ⟨_, .noLine hlines fun line hmem behind hline => hlabel ⟨line, hmem, behind, hline⟩⟩

/-! ## Reading gives the meaning -/

/-- The test for the aggregate line agrees with what such a line is. -/
theorem isAggregate_iff : isAggregate line = true ↔ ∃ behind, AggregateLine line behind := by
  unfold isAggregate AggregateLine
  simp only [beq_iff_eq, List.head?_eq_some_iff, words_eq_iff]

/-- The search finds the line whose words have to be counters. -/
theorem CounterWords.find?_eq (h : CounterWords text ws) :
    ∃ line, (lines text).find? isAggregate = some line ∧
      ((words line).drop 1).take states = ws := by
  obtain ⟨before, line, after, behind, hlines, hbefore, hline, rfl⟩ := h
  refine ⟨line, ?_, by rw [hline.words_eq]; rfl⟩
  rw [hlines.lines_eq, List.find?_eq_some_iff_append]
  refine ⟨isAggregate_iff.mpr ⟨behind, hline⟩, before, after, rfl, fun other hmem => ?_⟩
  rw [Bool.not_eq_true', ← Bool.not_eq_true, isAggregate_iff]
  rintro ⟨more, hother⟩
  exact hbefore other hmem more hother

/-- A word as a counter of ticks. -/
def counterOf (word : List Char) : Except ParseCause Nat :=
  match Counter.read? word with
  | some count => .ok count
  | none => .error (.badJiffies word)

/-- A word is read as a counter exactly where it is a literal of it. -/
theorem counterOf_eq_ok_iff {word : List Char} {n : Nat} :
    counterOf word = .ok n ↔ Counter.Literal word n := by
  rw [← Counter.read?_eq_some_iff, counterOf]
  cases Counter.read? word <;> simp

/-- A word that is no literal is refused and named. -/
theorem counterOf_of_not_literal {word : List Char} (h : ∀ n, ¬ Counter.Literal word n) :
    counterOf word = .error (.badJiffies word) := by
  rw [counterOf, Counter.read?_eq_none_iff.mpr h]

/-- What is read depends on the words that have to be counters and on nothing else. -/
theorem CounterWords.parse_eq (h : CounterWords text ws) (path : Path) :
    parse path text =
      match ws.mapM counterOf with
      | .error cause => .error (.error (.unparsable path cause))
      | .ok counts =>
        if counts.length < leastStates then
          .error (.error (.unparsable path (.fewCounters counts.length)))
        else (ofCounters counts).mapError .panic := by
  obtain ⟨line, hfind, rfl⟩ := h.find?_eq
  rw [parse, hfind]
  rfl

/-- Words that are all literals are read as their counters. -/
theorem CounterWords.parse_of_literals (h : CounterWords text ws)
    (hcounts : List.Forall₂ Counter.Literal ws counts) (path : Path) :
    parse path text =
      if ws.length < 4 then .error (.error (.unparsable path (.fewCounters ws.length)))
      else (ofCounters counts).mapError .panic := by
  have hread : ws.mapM counterOf = .ok counts :=
    mapM_of_forall₂ (hcounts.imp fun _ _ => counterOf_eq_ok_iff.mpr)
  rw [h.parse_eq, hread, hcounts.length_eq]
  rfl

/-- Reading a text gives its meaning. -/
theorem ParseOutcome.parse_eq (h : ParseOutcome path text outcome) : parse path text = outcome := by
  cases h with
  | noLine hlines hnone =>
    refine parse_of_no_line fun line hmem => ?_
    rw [← Bool.not_eq_true, isAggregate_iff]
    rintro ⟨behind, hline⟩
    rw [hlines.lines_eq] at hmem
    exact hnone line hmem behind hline
  | badWord hcounterWords hgood hbad =>
    have hread : ∀ word ∈ _, ∃ n, counterOf word = .ok n :=
      fun word hmem => (hgood word hmem).imp fun n => counterOf_eq_ok_iff.mpr
    rw [hcounterWords.parse_eq, mapM_of_error hread (counterOf_of_not_literal hbad)]
  | fewWords hcounterWords hcounts hfew => rw [hcounterWords.parse_of_literals hcounts, if_pos hfew]
  | overflow hcounterWords hcounts henough hsum =>
    rw [← Counter.limit_eq] at hsum
    rw [hcounterWords.parse_of_literals hcounts, if_neg (Nat.not_lt.mpr henough), ofCounters_eq,
      if_neg (Nat.not_lt.mpr hsum)]
    rfl
  | ticks hcounterWords hcounts henough hsum =>
    rw [← Counter.limit_eq] at hsum
    rw [hcounterWords.parse_of_literals hcounts, if_neg (Nat.not_lt.mpr henough), ofCounters_eq,
      if_pos hsum]
    rfl

/-- Nothing else is read. -/
theorem parse_eq_iff : parse path text = outcome ↔ ParseOutcome path text outcome := by
  constructor
  · rintro rfl
    obtain ⟨outcome, hparse⟩ := exists_parseOutcome path text
    rwa [hparse.parse_eq]
  · exact ParseOutcome.parse_eq

/-- In ticks that are read, no more are idle than there are. -/
theorem ParseOutcome.idle_le_total {now : Jiffies} (h : ParseOutcome path text (.ok now)) :
    now.idle ≤ now.total := by
  cases h with
  | ticks => exact idle_le_sum _

/-- Reading a text gives just the outcome stated for it: without a line for all processors,
that it is missed; else the first of the words behind its label that is no counter, even if
they are too few as well; else how many there are, if these are fewer than four; else a panic,
if the counters do not add up to one; else the ticks, the idle ones part of the total.  Words
behind the eighth and all other lines have no influence. -/
theorem ticks_of_any_text (path : Path) (text : List Char) :
    (∀ outcome, parse path text = outcome ↔ ParseOutcome path text outcome) ∧
      (∀ now, parse path text = .ok now → now.idle ≤ now.total) ∧
      (∀ other ws, CounterWords text ws → CounterWords other ws →
        parse path other = parse path text) ∧
      ParseCause.noProcessorLine.message = "aggregate 'cpu' line not found" ∧
      (∀ bad, (ParseCause.badJiffies bad).message =
        "expected integer jiffies, got '" ++ String.ofList bad ++ "'") ∧
      ∀ count, (ParseCause.fewCounters count).message =
        "expected at least 4 cpu fields, got " ++ toString count := by
  refine ⟨fun outcome => parse_eq_iff, fun now h => (parse_eq_iff.mp h).idle_le_total,
    fun other ws htext hother => ?_, rfl, fun bad => rfl, fun count => rfl⟩
  rw [htext.parse_eq, hother.parse_eq]

/-- A line for one processor is passed over, and a word that is no counter is reported though
there are too few. -/
example (path : Path) : parse path "cpu0 1 2 3 4\ncpu +7 1x\n".toList =
    .error (.error (.unparsable path (.badJiffies "1x".toList))) := by
  rfl

end Jiffies

end ResourceHealth
