import Mathlib
import ResourceHealth.Proofs.Source.Share
import ResourceHealth.Proofs.Source.Ticks

/-!
# Ticks are conserved

As long as no counter of the kernel goes back, what a processor meter takes as the ticks since
its last reading are just the ticks that were added: none is lost and none counted twice,
however the readings are spread and whichever of them fail.

Main definitions:

- `Jiffies.fields?`, `ProcessorMeter.fields?`: the counters behind ticks that can be read.
- `Jiffies.FieldsGrow`: no counter has gone back.
- `ProcessorMeter.elapsed`: the ticks since the last reading, as a meter takes them.
- `ProcessorMeter.elapsedAll`: these, for all readings that succeed.

Main results:

- Theorem `Jiffies.fields?_eq_some_iff`: the counters are those on the aggregate line.
- Theorem `Jiffies.sub_total_of_fieldsGrow`, `Jiffies.sub_idle_of_fieldsGrow`: what one reading
  adds.
- Theorem `ProcessorMeter.sum_elapsedAll`: what a run of readings adds up to.
- Theorem `ProcessorMeter.ticks_conserved`: no tick is lost or counted twice.
-/

namespace ResourceHealth

/-! ## The counters behind the ticks -/

namespace Jiffies

variable {path : Path} {text : List Char} {ws : List (List Char)} {fields before : List Nat}
  {now : Jiffies}

/-- The ticks that counters amount to if they add up to one. -/
def ofFields (fields : List Nat) : Jiffies :=
  ⟨fields.getD 3 0 + fields.getD 4 0, fields.sum⟩

/-- The counters of a text from which ticks can be read. -/
def fields? (text : List Char) : Option (List Nat) :=
  match (lines text).find? isAggregate with
  | none => none
  | some line =>
    match counters line with
    | .error _ => none
    | .ok counts =>
      if leastStates ≤ counts.length ∧ counts.sum < Counter.limit then some counts else none

/-- A text whose counters can be read gives the ticks that they make up. -/
theorem parse_of_fields? (h : fields? text = some fields) (path : Path) :
    parse path text = .ok (ofFields fields) := by
  cases hfind : (lines text).find? isAggregate with
  | none => simp [fields?, hfind] at h
  | some line =>
    cases hread : counters line with
    | error cause => simp [fields?, hfind, hread] at h
    | ok counts =>
      simp only [fields?, hfind, hread, Option.ite_none_right_eq_some, Option.some.injEq] at h
      obtain ⟨⟨henough, hsum⟩, rfl⟩ := h
      simp only [parse, hfind, hread, if_neg (Nat.not_lt.mpr henough), ofCounters_eq, if_pos hsum]
      rfl

/-- Words that are literals are the counters, if there are enough and they add up to one. -/
theorem CounterWords.fields?_eq (h : CounterWords text ws)
    (hcounts : List.Forall₂ Counter.Literal ws fields) (henough : 4 ≤ ws.length)
    (hsum : fields.sum < 2 ^ 64) : fields? text = some fields := by
  obtain ⟨line, hfind, hwords⟩ := h.find?_eq
  have hread : counters line = .ok fields := by
    subst hwords
    exact mapM_of_forall₂ (hcounts.imp fun _ _ => counterOf_eq_ok_iff.mpr)
  rw [hcounts.length_eq] at henough
  rw [← Counter.limit_eq] at hsum
  rw [fields?, hfind]
  dsimp only
  rw [hread]
  exact if_pos ⟨henough, hsum⟩

/-- Ticks that are read come from at least four counter words of the text, whose sum is a counter.
-/
theorem exists_fields_of_parse (h : parse path text = .ok now) :
    ∃ ws fields, CounterWords text ws ∧ List.Forall₂ Counter.Literal ws fields ∧ 4 ≤ ws.length ∧
      fields.sum < 2 ^ 64 ∧ ofFields fields = now := by
  cases parse_eq_iff.mp h with
  | ticks hcounterWords hcounts henough hsum =>
    exact ⟨_, _, hcounterWords, hcounts, henough, hsum, rfl⟩

/-- The counters are those on the aggregate line of the text. -/
theorem fields?_eq_some_iff :
    fields? text = some fields ↔
      ∃ ws, CounterWords text ws ∧ List.Forall₂ Counter.Literal ws fields ∧ 4 ≤ ws.length ∧
        fields.sum < 2 ^ 64 := by
  constructor
  · intro h
    obtain ⟨ws, told, hcounterWords, hcounts, henough, hsum, -⟩ :=
      exists_fields_of_parse (parse_of_fields? h ProcessorMeter.standardPath)
    obtain rfl : told = fields :=
      Option.some.inj ((hcounterWords.fields?_eq hcounts henough hsum).symm.trans h)
    exact ⟨ws, hcounterWords, hcounts, henough, hsum⟩
  · rintro ⟨ws, hcounterWords, hcounts, henough, hsum⟩
    exact hcounterWords.fields?_eq hcounts henough hsum

/-- Ticks can be read exactly if there are counters behind them. -/
theorem parse_eq_ok_iff :
    parse path text = .ok now ↔ ∃ fields, fields? text = some fields ∧ ofFields fields = now := by
  constructor
  · intro h
    obtain ⟨ws, fields, hcounterWords, hcounts, henough, hsum, hnow⟩ := exists_fields_of_parse h
    exact ⟨fields, hcounterWords.fields?_eq hcounts henough hsum, hnow⟩
  · rintro ⟨fields, hfields, rfl⟩
    exact parse_of_fields? hfields path

/-- A line of ticks gives eight counters at most. -/
theorem length_le_of_fields? (h : fields? text = some fields) : fields.length ≤ 8 := by
  obtain ⟨ws, ⟨-, -, -, behind, -, -, -, rfl⟩, hcounts, -, -⟩ := fields?_eq_some_iff.mp h
  rw [← hcounts.length_eq]
  exact List.length_take_le 8 behind

/-! ## What a reading adds -/

/-- No counter has gone back; one that a text does not have counts as zero. -/
def FieldsGrow (before fields : List Nat) : Prop :=
  ∀ i < 8, before.getD i 0 ≤ fields.getD i 0

instance (before fields : List Nat) : Decidable (FieldsGrow before fields) :=
  inferInstanceAs (Decidable (∀ i < 8, before.getD i 0 ≤ fields.getD i 0))

/-- The sum of a list is the sum over all places, the places behind its end counting as zero. -/
theorem sum_eq_sum_range {n : Nat} (h : fields.length ≤ n) :
    fields.sum = ∑ i ∈ Finset.range n, fields.getD i 0 := by
  induction fields generalizing n with
  | nil => simp
  | cons field rest ih =>
    obtain ⟨m, rfl⟩ : ∃ m, n = m + 1 := Nat.exists_eq_add_one_of_ne_zero (by rintro rfl; simp at h)
    rw [List.sum_cons, ih (Nat.le_of_succ_le_succ h), Finset.sum_range_succ', Nat.add_comm]
    rfl

/-- The total grows by what all counters have grown by. -/
theorem sub_total_of_fieldsGrow (h : FieldsGrow before fields) (hbefore : before.length ≤ 8)
    (hfields : fields.length ≤ 8) :
    (ofFields fields).total - (ofFields before).total =
      ∑ i ∈ Finset.range 8, (fields.getD i 0 - before.getD i 0) := by
  rw [ofFields, ofFields, sum_eq_sum_range hbefore, sum_eq_sum_range hfields]
  exact (Finset.sum_tsub_distrib _ fun i hi => h i (Finset.mem_range.mp hi)).symm

/-- The idle ticks grow by what the two idle counters have grown by. -/
theorem sub_idle_of_fieldsGrow (h : FieldsGrow before fields) :
    (ofFields fields).idle - (ofFields before).idle =
      ∑ i ∈ {3, 4}, (fields.getD i 0 - before.getD i 0) := by
  have hidle := h 3 (by decide)
  have hwaiting := h 4 (by decide)
  rw [Finset.sum_pair (by decide), ofFields, ofFields]
  dsimp only
  omega

/-- Where no counter goes down, the idle ticks do not. -/
theorem idle_le_of_fieldsGrow (h : FieldsGrow before fields) :
    (ofFields before).idle ≤ (ofFields fields).idle :=
  Nat.add_le_add (h 3 (by decide)) (h 4 (by decide))

/-- Where no counter goes down, the total of the ticks does not. -/
theorem total_le_of_fieldsGrow (h : FieldsGrow before fields) (hbefore : before.length ≤ 8)
    (hfields : fields.length ≤ 8) : (ofFields before).total ≤ (ofFields fields).total := by
  rw [ofFields, ofFields, sum_eq_sum_range hbefore, sum_eq_sum_range hfields]
  exact Finset.sum_le_sum fun i hi => h i (Finset.mem_range.mp hi)

end Jiffies

namespace ProcessorMeter

variable {path : Path} {host : Host} {hosts : List Host} {fields : List Nat} {now : Jiffies}

/-- The counters behind the ticks in a host's file. -/
def fields? (path : Path) (host : Host) : Option (List Nat) :=
  match host.sourceText path with
  | .error _ => none
  | .ok text => Jiffies.fields? text

/-- Ticks are read exactly where the counters are, and they are what the counters make up. -/
theorem ticks_eq_ok_iff :
    ticks path host = .ok now ↔
      ∃ fields, fields? path host = some fields ∧ Jiffies.ofFields fields = now := by
  unfold ticks fields?
  cases host.sourceText path with
  | error cause => simp
  | ok text => exact Jiffies.parse_eq_ok_iff

/-- A reading of the ticks keeps of the counters what they make up. -/
theorem toOption_ticks (path : Path) (host : Host) :
    (ticks path host).toOption = (fields? path host).map Jiffies.ofFields := by
  cases hfields : fields? path host with
  | some fields =>
    rw [ticks_eq_ok_iff.mpr ⟨fields, hfields, rfl⟩]
    rfl
  | none =>
    cases hticks : ticks path host with
    | error fault => rfl
    | ok now =>
      obtain ⟨fields, hsome, -⟩ := ticks_eq_ok_iff.mp hticks
      rw [hfields] at hsome
      cases hsome

/-- The ticks in the files of hosts have counters behind them. -/
theorem successes_ticks (path : Path) (hosts : List Host) :
    Jiffies.successes (hosts.map (ticks path)) =
      (hosts.filterMap (fields? path)).map Jiffies.ofFields := by
  rw [Jiffies.successes, List.filterMap_map, List.map_filterMap]
  exact congrArg (List.filterMap · hosts) (funext (toOption_ticks path))

/-- A host's file gives eight counters at most. -/
theorem length_le_of_fields? (h : fields? path host = some fields) : fields.length ≤ 8 := by
  unfold fields? at h
  split at h
  · cases h
  · exact Jiffies.length_le_of_fields? h

/-! ## What a meter takes as elapsed -/

/-- The ticks since the last reading, as a meter takes them: no fewer than none. -/
def elapsed (meter : ProcessorMeter) (now : Jiffies) : Jiffies :=
  ⟨now.idle - meter.last.idle, now.total - meter.last.total⟩

/-- A new share is made of the ticks elapsed. -/
theorem lastPercent_update (meter : ProcessorMeter) (now : Jiffies) :
    (meter.update now).lastPercent =
      if 0 < (meter.elapsed now).total then
        busyPercent (meter.elapsed now).idle (meter.elapsed now).total
      else meter.lastPercent :=
  rfl

/-- The meter that readings on hosts leave. -/
def afterReadings (hosts : List Host) (meter : ProcessorMeter) : ProcessorMeter :=
  hosts.foldl (fun current host => (current.read host).2) meter

theorem afterReadings_cons (host : Host) (rest : List Host) (meter : ProcessorMeter) :
    meter.afterReadings (host :: rest) = (meter.read host).2.afterReadings rest :=
  rfl

/-- The ticks elapsed at each of the readings on some hosts that succeed. -/
def elapsedAll : List Host → ProcessorMeter → List Jiffies
  | [], _ => []
  | host :: rest, meter =>
    match ticks meter.path host with
    | .error _ => elapsedAll rest (meter.read host).2
    | .ok now => meter.elapsed now :: elapsedAll rest (meter.read host).2

/-- A figure that never falls between the readings is not lost: what it was before, with what
has elapsed in all readings, is what it is in the end. -/
theorem sum_elapsedAll (hosts : List Host) (meter : ProcessorMeter) (figure : Jiffies → Nat)
    (hfigure : ∀ (meter : ProcessorMeter) now,
      figure (meter.elapsed now) = figure now - figure meter.last)
    (hgrows : ∀ earlier host later now, hosts = earlier ++ host :: later →
      ticks meter.path host = .ok now → figure (meter.afterReadings earlier).last ≤ figure now) :
    figure meter.last + ((meter.elapsedAll hosts).map figure).sum =
      figure (meter.afterReadings hosts).last := by
  induction hosts generalizing meter with
  | nil => rfl
  | cons host rest ih =>
    have hlater : figure (meter.read host).2.last +
        (((meter.read host).2.elapsedAll rest).map figure).sum =
          figure ((meter.read host).2.afterReadings rest).last := by
      refine ih _ fun earlier other later now hsplit hticks => ?_
      rw [path_read] at hticks
      exact hgrows (host :: earlier) other later now (by rw [hsplit]; rfl) hticks
    rw [afterReadings_cons, ← hlater]
    cases hticks : ticks meter.path host with
    | error fault => rw [elapsedAll, hticks, read_of_error hticks]
    | ok now =>
      -- what the meter measures from cancels against what is measured
      have hstep : figure meter.last ≤ figure now := hgrows [] host rest now rfl hticks
      have hnow : (meter.update now).last = now := rfl
      rw [elapsedAll, hticks, read_of_ok hticks, hnow]
      dsimp only
      rw [List.map_cons, List.sum_cons, hfigure, ← Nat.add_assoc, Nat.add_sub_cancel' hstep]

/-! ## A run of readings -/

/-- The counters of the newest reading that succeeded; before the first they are all zero. -/
def newestFields (path : Path) (hosts : List Host) : List Nat :=
  (hosts.filterMap (fields? path)).getLast?.getD []

/-- The next ticks are measured from the newest counters. -/
theorem last_afterReadings (path : Path) (hosts : List Host) :
    (afterReadings hosts { path }).last = Jiffies.ofFields (newestFields path hosts) := by
  rw [afterReadings, foldl_read, last_fed, successes_ticks, List.getLast?_map, newestFields]
  cases (hosts.filterMap (fields? path)).getLast? <;> rfl

/-- The counters read last are eight at most. -/
theorem length_newestFields_le (path : Path) (hosts : List Host) :
    (newestFields path hosts).length ≤ 8 := by
  unfold newestFields
  cases hlast : (hosts.filterMap (fields? path)).getLast? with
  | none => exact Nat.zero_le 8
  | some fields =>
    obtain ⟨host, -, hfields⟩ := List.mem_filterMap.mp (List.mem_of_getLast? hlast)
    exact length_le_of_fields? hfields

/-- From one reading that succeeds to the next the counters grow, whatever fails between. -/
theorem fieldsGrow_newestFields {earlier later : List Host}
    (hgrows : ((earlier ++ host :: later).filterMap (fields? path)).IsChain Jiffies.FieldsGrow)
    (hfields : fields? path host = some fields) :
    Jiffies.FieldsGrow (newestFields path earlier) fields := by
  rw [List.filterMap_append, List.filterMap_cons_some hfields] at hgrows
  obtain ⟨-, -, hjoin⟩ := List.isChain_append.mp hgrows
  unfold newestFields
  cases hlast : (earlier.filterMap (fields? path)).getLast? with
  | none => exact fun i _ => Nat.zero_le _
  | some before => exact hjoin before hlast fields rfl

/-- Ticks that are read have counters behind them, grown from those of the newest reading. -/
theorem exists_fields_of_ticks {earlier later : List Host}
    (hgrows : ((earlier ++ host :: later).filterMap (fields? path)).IsChain Jiffies.FieldsGrow)
    (hticks : ticks path host = .ok now) :
    ∃ fields, fields? path host = some fields ∧ Jiffies.ofFields fields = now ∧
      Jiffies.FieldsGrow (newestFields path earlier) fields := by
  obtain ⟨fields, hfields, hnow⟩ := ticks_eq_ok_iff.mp hticks
  exact ⟨fields, hfields, hnow, fieldsGrow_newestFields hgrows hfields⟩

/-- Neither the idle ticks nor all of them go back. -/
theorem last_le_of_fieldsGrow {earlier later : List Host}
    (hgrows : ((earlier ++ host :: later).filterMap (fields? path)).IsChain Jiffies.FieldsGrow)
    (hticks : ticks path host = .ok now) :
    (afterReadings earlier { path }).last.idle ≤ now.idle ∧
      (afterReadings earlier { path }).last.total ≤ now.total := by
  obtain ⟨fields, hfields, rfl, hgrow⟩ := exists_fields_of_ticks hgrows hticks
  rw [last_afterReadings]
  exact ⟨Jiffies.idle_le_of_fieldsGrow hgrow, Jiffies.total_le_of_fieldsGrow hgrow
    (length_newestFields_le path earlier) (length_le_of_fields? hfields)⟩

/-- No reading changes the file that the ticks are read from. -/
theorem path_afterReadings (hosts : List Host) (meter : ProcessorMeter) :
    (meter.afterReadings hosts).path = meter.path := by
  rw [afterReadings, foldl_read, path_updateAll]

/-- Of the ticks elapsed the idle ones are a part, and the rest are those of the other states. -/
theorem elapsed_of_fieldsGrow {earlier : List Host}
    (hgrow : Jiffies.FieldsGrow (newestFields path earlier) fields) (hlength : fields.length ≤ 8) :
    let elapsed := (afterReadings earlier { path }).elapsed (Jiffies.ofFields fields)
    elapsed.idle ≤ elapsed.total ∧
      elapsed.total - elapsed.idle =
        ∑ i ∈ Finset.range 8 \ {3, 4},
          (fields.getD i 0 - (newestFields path earlier).getD i 0) := by
  intro elapsed
  have htotal : elapsed.total =
      ∑ i ∈ Finset.range 8, (fields.getD i 0 - (newestFields path earlier).getD i 0) := by
    rw [← Jiffies.sub_total_of_fieldsGrow hgrow (length_newestFields_le path earlier) hlength,
      ← last_afterReadings]
    rfl
  have hidle : elapsed.idle =
      ∑ i ∈ {3, 4}, (fields.getD i 0 - (newestFields path earlier).getD i 0) := by
    rw [← Jiffies.sub_idle_of_fieldsGrow hgrow, ← last_afterReadings]
    rfl
  have hsubset : ({3, 4} : Finset Nat) ⊆ Finset.range 8 := by decide
  have hsplit := Finset.sum_sdiff
    (f := fun i => fields.getD i 0 - (newestFields path earlier).getD i 0) hsubset
  rw [← htotal, ← hidle] at hsplit
  exact ⟨Nat.le.intro ((Nat.add_comm _ _).trans hsplit), Nat.sub_eq_of_eq_add hsplit.symm⟩

/-- As long as no counter goes back from one reading that succeeds to the next, whatever
readings fail between: at each reading that succeeds the ticks elapsed, of which its share is
made, are what has really been added, so that no difference is cut off at zero; the idle ones
are part of all, and the others are what the counters of the other states have grown by.  Over
the run they add up to the ticks of the last reading that succeeded. -/
theorem ticks_conserved (path : Path) (hosts : List Host)
    (hgrows : (hosts.filterMap (fields? path)).IsChain Jiffies.FieldsGrow) :
    let meter : ProcessorMeter := { path }
    let newest := (Jiffies.successes (hosts.map (ticks path))).getLast?.getD Jiffies.zero
    (∀ earlier host later now, hosts = earlier ++ host :: later → ticks path host = .ok now →
      let current := meter.afterReadings earlier
      let elapsed := current.elapsed now
      let before := newestFields path earlier
      ∃ fields, fields? path host = some fields ∧
        (current.read host).1 = .ok
          (if 0 < elapsed.total then busyPercent elapsed.idle elapsed.total
            else current.lastPercent) ∧
        current.last.idle + elapsed.idle = now.idle ∧
        current.last.total + elapsed.total = now.total ∧
        elapsed.idle ≤ elapsed.total ∧
        elapsed.total - elapsed.idle =
          ∑ i ∈ Finset.range 8 \ {3, 4}, (fields.getD i 0 - before.getD i 0)) ∧
      ((meter.elapsedAll hosts).map Jiffies.total).sum = newest.total ∧
      ((meter.elapsedAll hosts).map Jiffies.idle).sum = newest.idle := by
  intro meter newest
  have hnewest : (meter.afterReadings hosts).last = newest := by
    rw [afterReadings, foldl_read, last_fed]
  refine ⟨?_, ?_, ?_⟩
  · rintro earlier host later now rfl hticks
    obtain ⟨fields, hfields, hnow, hgrow⟩ := exists_fields_of_ticks hgrows hticks
    obtain ⟨hidle, htotal⟩ := last_le_of_fieldsGrow hgrows hticks
    obtain ⟨hpart, hrest⟩ := elapsed_of_fieldsGrow hgrow (length_le_of_fields? hfields)
    rw [hnow] at hpart hrest
    have hpath : (meter.afterReadings earlier).path = path := path_afterReadings earlier meter
    refine ⟨fields, hfields, ?_, Nat.add_sub_cancel' hidle, Nat.add_sub_cancel' htotal, hpart,
      hrest⟩
    rw [read_of_ok (by rwa [hpath]), lastPercent_update]
  · have hsum := sum_elapsedAll hosts meter Jiffies.total (fun _ _ => rfl) (by
      rintro earlier host later now rfl hticks
      exact (last_le_of_fieldsGrow hgrows hticks).2)
    rw [← hnewest, ← hsum]
    exact (Nat.zero_add _).symm
  · have hsum := sum_elapsedAll hosts meter Jiffies.idle (fun _ _ => rfl) (by
      rintro earlier host later now rfl hticks
      exact (last_le_of_fieldsGrow hgrows hticks).1)
    rw [← hnewest, ← hsum]
    exact (Nat.zero_add _).symm

/-- The counters need not be as many in each reading, and a reading between may fail. -/
theorem ticks_conserved_past_failure :
    let host (text : String) := (Tree.kernel text.toList []).host ⟨1, 0, 0, 4096⟩
    let hosts := [host "cpu 4 0 1 5\n", host "cpu x\n", host "cpu 4 1 2 9 3 0 0 0 7\n"]
    let meter : ProcessorMeter := { path := standardPath }
    (hosts.filterMap (fields? standardPath)).IsChain Jiffies.FieldsGrow ∧
      ((meter.elapsedAll hosts).map Jiffies.total).sum = 19 ∧
      ((meter.elapsedAll hosts).map Jiffies.idle).sum = 12 := by
  intro host hosts meter
  have hgrows : (hosts.filterMap (fields? standardPath)).IsChain Jiffies.FieldsGrow := by
    decide +kernel
  have hnewest : (Jiffies.successes (hosts.map (ticks standardPath))).getLast? =
      some ⟨12, 19⟩ := by
    decide +kernel
  obtain ⟨-, htotal, hidle⟩ := ticks_conserved standardPath hosts hgrows
  rw [hnewest] at htotal hidle
  exact ⟨hgrows, htotal, hidle⟩

end ProcessorMeter

end ResourceHealth
