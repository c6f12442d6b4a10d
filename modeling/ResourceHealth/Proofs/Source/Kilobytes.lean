import Mathlib
import ResourceHealth.Proofs.Source.Ticks

/-!
# What the kernel's text says about the memory

What a text of the kernel says about the memory depends on the lines up to the first one by
which both keys have occurred, or on all lines if that never happens.  Among these the
last line with a key counts, but a line with a key and no number makes the whole text
useless, also if a later line would replace it.

Main definitions:

- `Memory.KeyLine`: a line with a key and a word behind it.
- `Memory.ScannedLines`: the lines of a text that count.
- `Memory.ParseOutcome`: what these lines say, one case for each kind of outcome.

Main results:

- Theorem `Memory.exists_scan`: what has been found as long as a figure is missing.
- Theorem `Memory.ParseOutcome.parse_eq`: reading a text gives what its lines say.
- Theorem `Memory.memory_of_any_text`: nothing else is read, and what has no influence.
-/

namespace ResourceHealth

namespace Memory

variable {path : Path} {text line key word : List Char} {ls scanned : List (List Char)} {n : Nat}
  {outcome : Except Fault Memory}

/-! ## Lines with keys -/

/-- A line of at least two words that starts with one of the keys. -/
def KeyLine (line key word : List Char) : Prop :=
  (key = totalKey ∨ key = availableKey) ∧ ∃ more, WordSplit line (key :: word :: more)

/-- A key stands on one of some lines. -/
def HasKey (ls : List (List Char)) (key : List Char) : Prop :=
  ∃ line ∈ ls, ∃ word, KeyLine line key word

/-- Both keys stand on lines. -/
def HasBothKeys (ls : List (List Char)) : Prop :=
  HasKey ls totalKey ∧ HasKey ls availableKey

/-- On all lines with keys a number follows. -/
def AllReadable (ls : List (List Char)) : Prop :=
  ∀ line ∈ ls, ∀ key word, KeyLine line key word → ∃ n, Counter.Literal word n

/-- The number on the last line with a key. -/
def LastValue (ls : List (List Char)) (key : List Char) (n : Nat) : Prop :=
  ∃ before line after word, ls = before ++ line :: after ∧ KeyLine line key word ∧
    Counter.Literal word n ∧ ¬ HasKey after key

/-- The lines of a text up to and including the first one by which both keys have occurred,
or all lines if that never happens. -/
def ScannedLines (text : List Char) (scanned : List (List Char)) : Prop :=
  ∃ rest, LineSplit text (scanned ++ rest) ∧
    (∀ earlier line later, scanned = earlier ++ line :: later → ¬ HasBothKeys earlier) ∧
    (rest = [] ∨ HasBothKeys scanned)

/-- What the lines that count say about the memory. -/
inductive ParseOutcome (path : Path) (scanned : List (List Char)) : Except Fault Memory → Prop
  /-- The first line with a key and no number behind it. -/
  | badWord {good more : List (List Char)} {line key bad : List Char}
      (hsplit : scanned = good ++ line :: more) (hgood : AllReadable good)
      (hline : KeyLine line key bad) (hbad : ∀ n, ¬ Counter.Literal bad n) :
      ParseOutcome path scanned (.error (.error (.unparsable path (.badKilobytes bad))))
  /-- The whole memory is missing, whether or not the available one is. -/
  | noTotal (hreadable : AllReadable scanned) (htotal : ¬ HasKey scanned totalKey) :
      ParseOutcome path scanned (.error (.error (.unparsable path .noTotalMemory)))
  /-- Only the available memory is missing. -/
  | noAvailable (hreadable : AllReadable scanned) (htotal : HasKey scanned totalKey)
      (havailable : ¬ HasKey scanned availableKey) :
      ParseOutcome path scanned (.error (.error (.unparsable path .noAvailableMemory)))
  /-- One of the figures in bytes is no counter. -/
  | overflow {total available : Nat} (hreadable : AllReadable scanned)
      (htotal : LastValue scanned totalKey total)
      (havailable : LastValue scanned availableKey available)
      (hlarge : 2 ^ 64 ≤ total * 1024 ∨ 2 ^ 64 ≤ available * 1024) :
      ParseOutcome path scanned (.error (.panic .multiplyOverflow))
  /-- No more is available than there is, and the rest is used. -/
  | memory {total available : Nat} (hreadable : AllReadable scanned)
      (htotal : LastValue scanned totalKey total)
      (havailable : LastValue scanned availableKey available)
      (hcounters : total * 1024 < 2 ^ 64 ∧ available * 1024 < 2 ^ 64) :
      ParseOutcome path scanned (.ok
        { total := 1024 * total
          available := 1024 * min available total
          used := 1024 * total - 1024 * min available total })

/-! ## Facts about lines with keys -/

/-- A line has a key exactly where the key is its first word and a second word follows. -/
theorem keyLine_iff :
    KeyLine line key word ↔
      (key = totalKey ∨ key = availableKey) ∧ ∃ more, words line = key :: word :: more := by
  simp only [KeyLine, words_eq_iff]

/-- A line has no more than one key and one word behind it. -/
theorem KeyLine.unique {otherKey otherWord : List Char} (h : KeyLine line key word)
    (hother : KeyLine line otherKey otherWord) : key = otherKey ∧ word = otherWord := by
  obtain ⟨-, more, hwords⟩ := keyLine_iff.mp h
  obtain ⟨-, others, hsame⟩ := keyLine_iff.mp hother
  rw [hwords] at hsame
  simp only [List.cons.injEq] at hsame
  exact ⟨hsame.1, hsame.2.1⟩

/-- A key occurs in two runs of lines exactly where it occurs in one of them. -/
theorem hasKey_append {first second : List (List Char)} :
    HasKey (first ++ second) key ↔ HasKey first key ∨ HasKey second key := by
  simp only [HasKey, List.mem_append, or_and_right, exists_or]

theorem hasKey_singleton : HasKey [line] key ↔ ∃ word, KeyLine line key word := by
  simp only [HasKey, List.mem_singleton, exists_eq_left]

/-- What is complete stays complete. -/
theorem HasBothKeys.append {first : List (List Char)} (h : HasBothKeys first)
    (second : List (List Char)) : HasBothKeys (first ++ second) :=
  ⟨hasKey_append.mpr (Or.inl h.1), hasKey_append.mpr (Or.inl h.2)⟩

theorem allReadable_append {first second : List (List Char)} :
    AllReadable (first ++ second) ↔ AllReadable first ∧ AllReadable second := by
  simp only [AllReadable, List.mem_append, or_imp, forall_and]

/-- A list with a last item is split at that item or before it. -/
theorem split_of_append_singleton {Item : Type} {items before after : List Item}
    {last item : Item} (h : items ++ [last] = before ++ item :: after) :
    (items = before ∧ last = item ∧ after = []) ∨
      ∃ later, after = later ++ [last] ∧ items = before ++ item :: later := by
  rcases List.eq_nil_or_concat' after with rfl | ⟨later, final, rfl⟩
  · obtain ⟨rfl, rfl⟩ := List.append_singleton_inj.mp h
    exact Or.inl ⟨rfl, rfl, rfl⟩
  · rw [← List.cons_append, ← List.append_assoc] at h
    obtain ⟨rfl, rfl⟩ := List.append_singleton_inj.mp h
    exact Or.inr ⟨later, rfl, rfl⟩

/-- A line without a key is not the last one with it. -/
theorem lastValue_append_of_not_keyLine (h : ∀ word, ¬ KeyLine line key word) :
    LastValue (ls ++ [line]) key n ↔ LastValue ls key n := by
  constructor
  · rintro ⟨before, last, after, word, hsplit, hlast, hword, hafter⟩
    rcases split_of_append_singleton hsplit with ⟨-, rfl, -⟩ | ⟨later, rfl, rfl⟩
    · exact absurd hlast (h word)
    · exact ⟨before, last, later, word, rfl, hlast, hword, fun hhasKey =>
        hafter (hasKey_append.mpr (Or.inl hhasKey))⟩
  · rintro ⟨before, last, after, word, rfl, hlast, hword, hafter⟩
    refine ⟨before, last, after ++ [line], word, by simp, hlast, hword, ?_⟩
    rw [hasKey_append, hasKey_singleton]
    rintro (hhasKey | ⟨other, hother⟩)
    · exact hafter hhasKey
    · exact h other hother

/-- A line with a key replaces what the lines before it gave. -/
theorem lastValue_append_of_keyLine (h : KeyLine line key word) (hword : Counter.Literal word n)
    (m : Nat) : LastValue (ls ++ [line]) key m ↔ n = m := by
  constructor
  · rintro ⟨before, last, after, other, hsplit, hlast, hother, hafter⟩
    rcases split_of_append_singleton hsplit with ⟨-, rfl, -⟩ | ⟨later, rfl, -⟩
    · obtain ⟨-, rfl⟩ := h.unique hlast
      exact hword.unique hother
    · exact absurd (hasKey_append.mpr (Or.inr (hasKey_singleton.mpr ⟨word, h⟩))) hafter
  · rintro rfl
    exact ⟨ls, line, [], word, rfl, h, hword, by simp [HasKey]⟩

/-- A key on legible lines has a number on the last of them. -/
theorem exists_lastValue_iff (h : AllReadable ls) : (∃ n, LastValue ls key n) ↔ HasKey ls key := by
  constructor
  · rintro ⟨n, before, line, after, word, rfl, hline, -, -⟩
    exact ⟨line, by simp, word, hline⟩
  · intro hhasKey
    induction ls using List.reverseRecOn with
    | nil => simp [HasKey] at hhasKey
    | append_singleton ls line ih =>
      obtain ⟨hls, hline⟩ := allReadable_append.mp h
      by_cases hkeyLine : ∃ word, KeyLine line key word
      · obtain ⟨word, hkeyLine⟩ := hkeyLine
        obtain ⟨n, hword⟩ := hline line (List.mem_singleton_self line) key word hkeyLine
        exact ⟨n, (lastValue_append_of_keyLine hkeyLine hword n).mpr rfl⟩
      · have hbefore : HasKey ls key := by
          rw [hasKey_append, hasKey_singleton] at hhasKey
          exact hhasKey.resolve_right hkeyLine
        obtain ⟨n, hlatest⟩ := ih hls hbefore
        exact ⟨n, (lastValue_append_of_not_keyLine (not_exists.mp hkeyLine)).mpr hlatest⟩

/-! ## Every text has an outcome -/

/-- Some first lines are those that count. -/
theorem exists_cut (ls : List (List Char)) :
    ∃ scanned rest, ls = scanned ++ rest ∧
      (∀ earlier line later, scanned = earlier ++ line :: later → ¬ HasBothKeys earlier) ∧
      (rest = [] ∨ HasBothKeys scanned) := by
  induction ls using List.reverseRecOn with
  | nil => exact ⟨[], [], rfl, by simp, Or.inl rfl⟩
  | append_singleton ls last ih =>
    obtain ⟨scanned, rest, rfl, hfirst, hrest⟩ := ih
    by_cases hbothKeys : HasBothKeys scanned
    · exact ⟨scanned, rest ++ [last], List.append_assoc .., hfirst, Or.inr hbothKeys⟩
    · obtain rfl := hrest.resolve_right hbothKeys
      refine ⟨scanned ++ [last], [], by simp, fun earlier line later hsplit hearlier => ?_,
        Or.inl rfl⟩
      -- what is complete before the last line is complete without it
      rcases split_of_append_singleton hsplit with ⟨rfl, -, -⟩ | ⟨middle, -, rfl⟩
      · exact hbothKeys hearlier
      · exact hbothKeys (hearlier.append (line :: middle))

/-- Every text has a part that is scanned. -/
theorem exists_scannedLines (text : List Char) : ∃ scanned, ScannedLines text scanned := by
  obtain ⟨ls, hlines⟩ := LineSplit.exists_lines text
  obtain ⟨scanned, rest, rfl, hfirst, hrest⟩ := exists_cut ls
  exact ⟨scanned, rest, hlines, hfirst, hrest⟩

/-- Any lines say something about the memory. -/
theorem exists_parseOutcome (path : Path) (scanned : List (List Char)) :
    ∃ outcome, ParseOutcome path scanned outcome := by
  by_cases hbad : ∃ line ∈ scanned, ∃ key word,
      KeyLine line key word ∧ ∀ n, ¬ Counter.Literal word n
  · obtain ⟨good, line, more, hsplit, ⟨key, word, hline, hword⟩, hgood⟩ := exists_first hbad
    refine ⟨_, .badWord hsplit (fun other hmem key word hother => ?_) hline hword⟩
    by_contra hnone
    exact hgood other hmem ⟨key, word, hother, not_exists.mp hnone⟩
  · have hreadable : AllReadable scanned := fun line hmem key word hline => by
      by_contra hnone
      exact hbad ⟨line, hmem, key, word, hline, not_exists.mp hnone⟩
    by_cases htotal : HasKey scanned totalKey
    · by_cases havailable : HasKey scanned availableKey
      · obtain ⟨total, htotal⟩ := (exists_lastValue_iff hreadable).mpr htotal
        obtain ⟨available, havailable⟩ := (exists_lastValue_iff hreadable).mpr havailable
        by_cases hcounters : total * 1024 < 2 ^ 64 ∧ available * 1024 < 2 ^ 64
        · exact ⟨_, .memory hreadable htotal havailable hcounters⟩
        · exact ⟨_, .overflow hreadable htotal havailable (by omega)⟩
      · exact ⟨_, .noAvailable hreadable htotal havailable⟩
    · exact ⟨_, .noTotal hreadable htotal⟩

/-! ## Hearing a line -/

/-- What has been found stands on the last lines with the keys. -/
structure Scan.Matches (scan : Scan) (ls : List (List Char)) : Prop where
  total : ∀ n, scan.total = some n ↔ LastValue ls totalKey n
  available : ∀ n, scan.available = some n ↔ LastValue ls availableKey n

/-- A word that is a literal is read as its number. -/
theorem kilobytes_of_literal (h : Counter.Literal word n) : kilobytes word = .ok n := by
  rw [kilobytes, Counter.read?_eq_some_iff.mpr h]

/-- A line without a key changes nothing. -/
theorem readLine_of_not_keyLine (h : ∀ key word, ¬ KeyLine line key word) (scan : Scan) :
    scan.readLine line = .ok scan := by
  unfold Scan.readLine
  split
  · rename_i key word more hwords
    have htotal : key ≠ totalKey := fun hkey =>
      h key word (keyLine_iff.mpr ⟨Or.inl hkey, more, hwords⟩)
    have havailable : key ≠ availableKey := fun hkey =>
      h key word (keyLine_iff.mpr ⟨Or.inr hkey, more, hwords⟩)
    rw [if_neg htotal, if_neg havailable]
  · rfl

/-- A line with a key and no literal behind it ends the scan, with that word as the cause. -/
theorem readLine_of_not_literal (h : KeyLine line key word) (hword : ∀ n, ¬ Counter.Literal word n)
    (scan : Scan) : scan.readLine line = .error (.badKilobytes word) := by
  obtain ⟨hkey, more, hwords⟩ := keyLine_iff.mp h
  have hread : kilobytes word = .error (.badKilobytes word) := by
    rw [kilobytes, Counter.read?_eq_none_iff.mpr hword]
  rcases hkey with rfl | rfl
  · simp [Scan.readLine, hwords, hread, Except.map]
  · simp [Scan.readLine, hwords, hread, Except.map]

/-- A readable line is read, and what has been found matches the lines with it. -/
theorem Scan.Matches.exists_readLine {scan : Scan} (h : scan.Matches ls)
    (hline : ∀ key word, KeyLine line key word → ∃ n, Counter.Literal word n) :
    ∃ now, scan.readLine line = .ok now ∧ now.Matches (ls ++ [line]) := by
  by_cases hkeyLine : ∃ key word, KeyLine line key word
  · obtain ⟨key, word, hkeyLine⟩ := hkeyLine
    obtain ⟨n, hword⟩ := hline key word hkeyLine
    obtain ⟨hkey, more, hwords⟩ := keyLine_iff.mp hkeyLine
    have hread := kilobytes_of_literal hword
    rcases hkey with rfl | rfl
    · refine ⟨{ scan with total := some n }, by simp [readLine, hwords, hread, Except.map],
        fun m => ?_, fun m => ?_⟩
      · rw [lastValue_append_of_keyLine hkeyLine hword, Option.some.injEq]
      · rw [lastValue_append_of_not_keyLine fun other hother => ?_]
        · exact h.available m
        · exact absurd (hkeyLine.unique hother).1 (by decide)
    · refine ⟨{ scan with available := some n }, ?_, fun m => ?_, fun m => ?_⟩
      · have hne : availableKey ≠ totalKey := by decide
        simp [readLine, hwords, hread, hne, Except.map]
      · rw [lastValue_append_of_not_keyLine fun other hother => ?_]
        · exact h.total m
        · exact absurd (hkeyLine.unique hother).1 (by decide)
      · rw [lastValue_append_of_keyLine hkeyLine hword, Option.some.injEq]
  · have hnone : ∀ key word, ¬ KeyLine line key word := by simpa using hkeyLine
    refine ⟨scan, readLine_of_not_keyLine hnone scan, fun m => ?_, fun m => ?_⟩
    · rw [lastValue_append_of_not_keyLine (hnone totalKey), h.total m]
    · rw [lastValue_append_of_not_keyLine (hnone availableKey), h.available m]

/-- Both figures have been found exactly when both keys have occurred. -/
theorem Scan.Matches.isSome_iff {scan : Scan} (h : scan.Matches ls) (hreadable : AllReadable ls) :
    (scan.total.isSome ∧ scan.available.isSome) ↔ HasBothKeys ls := by
  simp only [Option.isSome_iff_exists, h.total, h.available, exists_lastValue_iff hreadable,
    HasBothKeys]

/-- A figure whose key does not occur has not been found. -/
theorem eq_none_of_not_hasKey {figure : Option Nat}
    (hfigure : ∀ n, figure = some n ↔ LastValue ls key n) (hreadable : AllReadable ls)
    (hnone : ¬ HasKey ls key) : figure = none := by
  rw [Option.eq_none_iff_forall_ne_some]
  intro n hn
  exact hnone ((exists_lastValue_iff hreadable).mp ⟨n, (hfigure n).mp hn⟩)

/-! ## Hearing line after line -/

/-- As long as a figure is missing, one line after the other is read, and how it goes on
depends on what these have told. -/
theorem exists_scan (hreadable : AllReadable ls) (hopen : ¬ HasBothKeys ls) :
    ∃ scan : Scan, scan.Matches ls ∧
      ∀ rest, Scan.readLines {} (ls ++ rest) = scan.readLines rest := by
  -- the last line decides what is found, so the induction takes lines from the end
  induction ls using List.reverseRecOn with
  | nil =>
    refine ⟨{}, ⟨fun n => ?_, fun n => ?_⟩, fun rest => rfl⟩
    · simp [LastValue]
    · simp [LastValue]
  | append_singleton ls line ih =>
    obtain ⟨hls, hline⟩ := allReadable_append.mp hreadable
    obtain ⟨scan, hmatches, hrest⟩ := ih hls fun h => hopen (h.append [line])
    obtain ⟨now, hnow, hnowMatches⟩ :=
      hmatches.exists_readLine (hline line (List.mem_singleton_self line))
    have hmissing : ¬ (now.total.isSome ∧ now.available.isSome) := by
      rwa [hnowMatches.isSome_iff hreadable]
    refine ⟨now, hnowMatches, fun rest => ?_⟩
    rw [List.append_assoc, List.singleton_append, hrest, Scan.readLines, hnow]
    exact if_neg hmissing

/-- The first line with a key and no number ends the reading. -/
theorem ScannedLines.readLines_of_bad (hscanned : ScannedLines text scanned)
    {good more : List (List Char)} (hsplit : scanned = good ++ line :: more)
    (hgood : AllReadable good) (hline : KeyLine line key word)
    (hword : ∀ n, ¬ Counter.Literal word n) :
    Scan.readLines {} (lines text) = .error (.badKilobytes word) := by
  obtain ⟨rest, hlines, hfirst, -⟩ := hscanned
  obtain ⟨scan, -, hgoes⟩ := exists_scan hgood (hfirst good line more hsplit)
  rw [hlines.lines_eq, hsplit, List.append_assoc, List.cons_append, hgoes, Scan.readLines,
    readLine_of_not_literal hline hword]

/-- Readable lines are read up to the last of them, and no line behind them. -/
theorem ScannedLines.readLines_of_allReadable (hscanned : ScannedLines text scanned)
    (hreadable : AllReadable scanned) :
    ∃ scan : Scan, scan.Matches scanned ∧ Scan.readLines {} (lines text) = .ok scan := by
  obtain ⟨rest, hlines, hfirst, hrest⟩ := hscanned
  rw [hlines.lines_eq]
  rcases List.eq_nil_or_concat' scanned with rfl | ⟨earlier, line, rfl⟩
  · obtain rfl := hrest.resolve_right (by simp [HasBothKeys, HasKey])
    obtain ⟨scan, hmatches, hgoes⟩ := exists_scan hreadable (by simp [HasBothKeys, HasKey])
    exact ⟨scan, hmatches, hgoes []⟩
  · -- the lines before the last are not complete, so that the last is read as well
    obtain ⟨hearlier, hline⟩ := allReadable_append.mp hreadable
    obtain ⟨scan, hmatches, hgoes⟩ := exists_scan hearlier (hfirst earlier line [] rfl)
    obtain ⟨now, hnow, hnowMatches⟩ :=
      hmatches.exists_readLine (hline line (List.mem_singleton_self line))
    refine ⟨now, hnowMatches, ?_⟩
    rw [List.append_assoc, List.singleton_append, hgoes, Scan.readLines, hnow]
    rcases hrest with rfl | hbothKeys
    · dsimp only
      split <;> rfl
    · exact if_pos ((hnowMatches.isSome_iff hreadable).mpr hbothKeys)

/-- Two figures amount to the memory stated for them. -/
theorem ScannedLines.parse_of_lastValue (hscanned : ScannedLines text scanned)
    {total available : Nat}
    (hreadable : AllReadable scanned) (htotal : LastValue scanned totalKey total)
    (havailable : LastValue scanned availableKey available) :
    parse path text = (ofKilobytes total available).mapError .panic := by
  obtain ⟨⟨whole, free⟩, hmatches, hscan⟩ := hscanned.readLines_of_allReadable hreadable
  obtain rfl : whole = some total := (hmatches.total total).mpr htotal
  obtain rfl : free = some available := (hmatches.available available).mpr havailable
  rw [parse, hscan]

/-- The cap may as well be taken before the figures are turned into bytes. -/
theorem ofKilobytes_of_lt {total available : Nat}
    (h : total * 1024 < 2 ^ 64 ∧ available * 1024 < 2 ^ 64) :
    ofKilobytes total available = .ok
      { total := 1024 * total
        available := 1024 * min available total
        used := 1024 * total - 1024 * min available total } := by
  have hbytes : bytesPerKilobyte = 1024 := rfl
  rw [ofKilobytes_eq, Counter.limit_eq, hbytes, if_pos h, Nat.mul_comm 1024 total,
    Nat.mul_comm 1024 (min available total), ← Nat.mul_min_mul_right]

/-- What is used and what is available is all, and what is available is part of it. -/
theorem ParseOutcome.balance {memory : Memory} (h : ParseOutcome path scanned (.ok memory)) :
    memory.used + memory.available = memory.total ∧ memory.available ≤ memory.total := by
  cases h with
  | @memory total available =>
    have hcapped : 1024 * min available total ≤ 1024 * total :=
      Nat.mul_le_mul_left 1024 (Nat.min_le_right available total)
    exact ⟨Nat.sub_add_cancel hcapped, hcapped⟩

/-- The same lines count in another text that starts with them. -/
theorem ScannedLines.of_lineSplit {rest : List (List Char)} {other : List Char}
    (hscanned : ScannedLines text scanned) (hbothKeys : HasBothKeys scanned)
    (hother : LineSplit other (scanned ++ rest)) : ScannedLines other scanned := by
  obtain ⟨-, -, hfirst, -⟩ := hscanned
  exact ⟨rest, hother, hfirst, Or.inr hbothKeys⟩

/-- Reading a text gives what the lines that count say. -/
theorem ParseOutcome.parse_eq (h : ParseOutcome path scanned outcome)
    (hscanned : ScannedLines text scanned) :
    parse path text = outcome := by
  cases h with
  | badWord hsplit hgood hline hbad =>
    rw [parse, hscanned.readLines_of_bad hsplit hgood hline hbad]
  | noTotal hreadable htotal =>
    obtain ⟨⟨total, available⟩, hmatches, hscan⟩ := hscanned.readLines_of_allReadable hreadable
    obtain rfl : total = none := eq_none_of_not_hasKey hmatches.total hreadable htotal
    rw [parse, hscan]
  | noAvailable hreadable htotal havailable =>
    obtain ⟨⟨total, available⟩, hmatches, hscan⟩ := hscanned.readLines_of_allReadable hreadable
    obtain ⟨n, hlatest⟩ := (exists_lastValue_iff hreadable).mpr htotal
    obtain rfl : total = some n := (hmatches.total n).mpr hlatest
    obtain rfl : available = none := eq_none_of_not_hasKey hmatches.available hreadable havailable
    rw [parse, hscan]
  | overflow hreadable htotal havailable hlarge =>
    rw [hscanned.parse_of_lastValue hreadable htotal havailable,
      ofKilobytes_eq_error_iff.mpr ⟨rfl, ?_⟩]
    · rfl
    · rwa [Counter.limit_eq]
  | memory hreadable htotal havailable hcounters =>
    rw [hscanned.parse_of_lastValue hreadable htotal havailable, ofKilobytes_of_lt hcounters]
    rfl

/-- Nothing else is read. -/
theorem parse_eq_iff :
    parse path text = outcome ↔
      ∃ scanned, ScannedLines text scanned ∧ ParseOutcome path scanned outcome := by
  constructor
  · rintro rfl
    obtain ⟨scanned, hscanned⟩ := exists_scannedLines text
    obtain ⟨outcome, hparse⟩ := exists_parseOutcome path scanned
    rw [hparse.parse_eq hscanned]
    exact ⟨scanned, hscanned, hparse⟩
  · rintro ⟨scanned, hscanned, hparse⟩
    exact hparse.parse_eq hscanned

/-- The outcome stated for a text is just what reading it gives, from the lines up to the
first one by which both keys have occurred: the first line with a key and no number behind it,
if there is one; else that the whole memory is missed; else that the available one is; else,
with the numbers on the last line of each key, a panic if one of them in bytes is no counter,
and otherwise the memory, of which no more is available than there is and the rest is used.
Lines behind the one by which both keys have occurred have no influence. -/
theorem memory_of_any_text (path : Path) (text : List Char) :
    (∀ outcome, parse path text = outcome ↔
        ∃ scanned, ScannedLines text scanned ∧ ParseOutcome path scanned outcome) ∧
      (∀ memory, parse path text = .ok memory →
        memory.used + memory.available = memory.total ∧ memory.available ≤ memory.total) ∧
      (∀ scanned rest other, ScannedLines text scanned → HasBothKeys scanned →
        LineSplit other (scanned ++ rest) →
        parse path other = parse path text) ∧
      (∀ bad, (ParseCause.badKilobytes bad).message =
        "expected integer kB value, got '" ++ String.ofList bad ++ "'") ∧
      ParseCause.noTotalMemory.message = "MemTotal not found" ∧
      ParseCause.noAvailableMemory.message = "MemAvailable not found" := by
  refine ⟨fun outcome => parse_eq_iff, fun memory h => ?_,
    fun scanned rest other hscanned hbothKeys hother => ?_, fun bad => rfl, rfl, rfl⟩
  · obtain ⟨scanned, -, hparse⟩ := parse_eq_iff.mp h
    exact hparse.balance
  · obtain ⟨outcome, hparse⟩ := exists_parseOutcome path scanned
    have hsame : ScannedLines other scanned := hscanned.of_lineSplit hbothKeys hother
    rw [hparse.parse_eq hscanned, hparse.parse_eq hsame]

end Memory

end ResourceHealth
