import Mathlib
import ResourceHealth.Proofs.Source.Range

/-!
# The share that a processor meter shows

A meter is read again and again, and some of the readings fail.  The share that a reading
gives may stem from an earlier one, while the ticks are always measured from the newest ones
that were read.  In closed form it is the share of the last two readings in a row between
which the total rose, and zero if it never did; readings that failed have no part in this.

Main definitions:

- `ProcessorMeter.readings`: readings on hosts, one after the other.
- `ProcessorMeter.shares`: what those that succeed give.
- `Jiffies.ticksAfter`: the ticks after a number of readings.
- `ProcessorMeter.after`: the meter after a number of readings.

Main results:

- Theorem `ProcessorMeter.readings_filter`: readings that fail can be left out.
- Theorem `ProcessorMeter.lastPercent_after_succ`: what one reading does to the share.
- Theorem `ProcessorMeter.shares_of_any_readings`: the shares in closed form.
-/

namespace ResourceHealth

/-! ## Ticks by number -/

namespace Jiffies

/-- The ticks after a number of readings that succeeded; before the first there are none. -/
def ticksAfter (reads : List Jiffies) (k : Nat) : Jiffies :=
  (zero :: reads).getD k zero

/-- The ticks after one more reading are those it gives. -/
theorem ticksAfter_succ {reads : List Jiffies} {k : Nat} (hk : k < reads.length) :
    ticksAfter reads (k + 1) = reads[k] := by
  simp [ticksAfter, hk]

theorem successes_map_ok (reads : List Jiffies) : successes (reads.map Except.ok) = reads := by
  rw [successes, List.filterMap_map]
  exact List.filterMap_some

end Jiffies

namespace ProcessorMeter

variable {reads : List Jiffies} {k : Nat}

/-! ## Readings one after the other -/

/-- Readings on hosts, one after the other: what each gives, and the meter that it leaves. -/
def readings : List Host → ProcessorMeter → List (Except Fault Binary64 × ProcessorMeter)
  | [], _ => []
  | host :: rest, meter => meter.read host :: readings rest (meter.read host).2

/-- The shares that readings give, without those that fail. -/
def shares (hosts : List Host) (meter : ProcessorMeter) : List Binary64 :=
  (meter.readings hosts).filterMap fun reading => reading.1.toOption

theorem path_read (host : Host) (meter : ProcessorMeter) :
    (meter.read host).2.path = meter.path := by
  rw [read_eq_updateWith]
  exact path_updateAll [ticks meter.path host] meter

/-- A reading whose ticks cannot be read fails in the same way and leaves the meter as it is. -/
theorem read_of_error {host : Host} {meter : ProcessorMeter} {fault : Fault}
    (h : ticks meter.path host = .error fault) : meter.read host = (.error fault, meter) := by
  rw [read_eq_updateWith, h]
  rfl

/-- A reading whose ticks can be read updates the meter and gives the percentage it then has. -/
theorem read_of_ok {host : Host} {meter : ProcessorMeter} {now : Jiffies}
    (h : ticks meter.path host = .ok now) :
    meter.read host = (.ok (meter.update now).lastPercent, meter.update now) := by
  rw [read_eq_updateWith, h]
  rfl

/-- A reading fails as the ticks do. -/
theorem read_eq_error_iff {host : Host} {meter : ProcessorMeter} {fault : Fault} :
    (meter.read host).1 = .error fault ↔ ticks meter.path host = .error fault := by
  rw [read_eq_updateWith]
  cases ticks meter.path host <;> simp [updateWith]

/-- Readings that fail can be left out: the others give the same and leave the same meters. -/
theorem readings_filter (hosts : List Host) (meter : ProcessorMeter) :
    meter.readings (hosts.filter fun host => (ticks meter.path host).isOk) =
      (meter.readings hosts).filter fun reading => reading.1.isOk := by
  induction hosts generalizing meter with
  | nil => rfl
  | cons host rest ih =>
    cases hticks : ticks meter.path host with
    | error fault =>
      have hread := read_of_error hticks
      rw [List.filter_cons_of_neg (by simp [hticks, Except.isOk, Except.toBool]), ih, readings,
        hread, List.filter_cons_of_neg (by simp [Except.isOk, Except.toBool])]
    | ok now =>
      have hread := read_of_ok hticks
      have hpath : (meter.update now).path = meter.path := rfl
      rw [List.filter_cons_of_pos (by simp [hticks, Except.isOk, Except.toBool]), readings,
        readings, hread, List.filter_cons_of_pos (by simp [Except.isOk, Except.toBool]),
        ← ih (meter.update now), hpath]

/-! ## The meter after some readings -/

/-- The meter after a number of readings that succeed. -/
def after (reads : List Jiffies) (k : Nat) (meter : ProcessorMeter) : ProcessorMeter :=
  (reads.take k).foldl update meter

/-- The meter after one more reading is updated with the ticks of that reading. -/
theorem after_succ (hk : k < reads.length) (meter : ProcessorMeter) :
    meter.after reads (k + 1) =
      (meter.after reads k).update (Jiffies.ticksAfter reads (k + 1)) := by
  rw [after, after, List.take_succ_eq_append_getElem hk, List.foldl_append,
    Jiffies.ticksAfter_succ hk]
  rfl

/-- A reading that fails adds no share. -/
theorem shares_of_error {host : Host} {rest : List Host} {meter : ProcessorMeter} {fault : Fault}
    (h : ticks meter.path host = .error fault) :
    meter.shares (host :: rest) = meter.shares rest := by
  rw [shares, readings, read_of_error h]
  rfl

theorem shares_of_ok {host : Host} {rest : List Host} {meter : ProcessorMeter} {now : Jiffies}
    (h : ticks meter.path host = .ok now) :
    meter.shares (host :: rest) =
      (meter.update now).lastPercent :: (meter.update now).shares rest := by
  rw [shares, readings, read_of_ok h]
  rfl

/-- The shares are those that the meter shows after each of the readings that succeed. -/
theorem shares_eq (hosts : List Host) (meter : ProcessorMeter) :
    meter.shares hosts =
      (List.range (Jiffies.successes (hosts.map (ticks meter.path))).length).map fun k =>
        (meter.after (Jiffies.successes (hosts.map (ticks meter.path))) (k + 1)).lastPercent := by
  induction hosts generalizing meter with
  | nil => rfl
  | cons host rest ih =>
    cases hticks : ticks meter.path host with
    | error fault =>
      have hreads : Jiffies.successes ((host :: rest).map (ticks meter.path)) =
          Jiffies.successes (rest.map (ticks meter.path)) := by
        rw [List.map_cons, hticks]
        rfl
      rw [shares_of_error hticks, ih, hreads]
    | ok now =>
      have hreads : Jiffies.successes ((host :: rest).map (ticks meter.path)) =
          now :: Jiffies.successes (rest.map (ticks meter.path)) := by
        rw [List.map_cons, hticks]
        rfl
      have hpath : (meter.update now).path = meter.path := rfl
      rw [shares_of_ok hticks, ih, hpath, hreads, List.length_cons, List.range_succ_eq_map,
        List.map_cons, List.map_map]
      rfl

/-! ## The share in closed form -/

/-- The ticks of the next reading are measured from those of the one before. -/
theorem last_after (hk : k ≤ reads.length) (path : Path) :
    (after reads k { path }).last = Jiffies.ticksAfter reads k := by
  cases k with
  | zero => rfl
  | succ k =>
    rw [after_succ hk]
    rfl

/-- A reading shows a new share if the total has risen, and the share before if it has not. -/
theorem lastPercent_after_succ (hk : k < reads.length) (path : Path) :
    (after reads (k + 1) { path }).lastPercent =
      if (Jiffies.ticksAfter reads k).total < (Jiffies.ticksAfter reads (k + 1)).total then
        busyPercent ((Jiffies.ticksAfter reads (k + 1)).idle - (Jiffies.ticksAfter reads k).idle)
          ((Jiffies.ticksAfter reads (k + 1)).total - (Jiffies.ticksAfter reads k).total)
      else (after reads k { path }).lastPercent := by
  rw [after_succ hk, update, last_after (Nat.le_of_lt hk)]
  simp only [Nat.sub_pos_iff_lt]

/-- The share is that of the newest rise of the total, and zero if there was none. -/
theorem lastPercent_after (hk : k ≤ reads.length) (path : Path) :
    (∃ j < k, (Jiffies.ticksAfter reads j).total < (Jiffies.ticksAfter reads (j + 1)).total ∧
        (∀ i, j < i → i < k →
          (Jiffies.ticksAfter reads (i + 1)).total ≤ (Jiffies.ticksAfter reads i).total) ∧
        (after reads k { path }).lastPercent =
          busyPercent ((Jiffies.ticksAfter reads (j + 1)).idle - (Jiffies.ticksAfter reads j).idle)
            ((Jiffies.ticksAfter reads (j + 1)).total - (Jiffies.ticksAfter reads j).total)) ∨
      (∀ j < k, (Jiffies.ticksAfter reads (j + 1)).total ≤ (Jiffies.ticksAfter reads j).total) ∧
        (after reads k { path }).lastPercent = 0 := by
  induction k with
  | zero => exact Or.inr ⟨by simp, rfl⟩
  | succ k ih =>
    have hstep := lastPercent_after_succ hk path
    by_cases hrises : (Jiffies.ticksAfter reads k).total < (Jiffies.ticksAfter reads (k + 1)).total
    · rw [if_pos hrises] at hstep
      exact Or.inl ⟨k, Nat.lt_succ_self k, hrises, fun i hi hik => by omega, hstep⟩
    · rw [if_neg hrises] at hstep
      rw [Nat.not_lt] at hrises
      rcases ih (Nat.le_of_lt hk) with ⟨j, hj, hrise, hstays, hshare⟩ | ⟨hstays, hzero⟩
      · refine Or.inl ⟨j, Nat.lt_succ_of_lt hj, hrise, fun i hi hik => ?_, hstep.trans hshare⟩
        rcases Nat.lt_succ_iff_lt_or_eq.mp hik with hlt | rfl
        · exact hstays i hi hlt
        · exact hrises
      · refine Or.inr ⟨fun j hj => ?_, hstep.trans hzero⟩
        rcases Nat.lt_succ_iff_lt_or_eq.mp hj with hlt | rfl
        · exact hstays j hlt
        · exact hrises

/-- The share that a meter shows is in range, and so it is a number. -/
theorem isShare_after (hreads : ∀ now ∈ reads, now.InRange) (k : Nat) (path : Path) :
    (after reads k { path }).lastPercent.IsShare := by
  have hfed : after reads k { path } = updateAll ((reads.take k).map Except.ok) { path } := by
    rw [updateAll_eq_foldl_update, Jiffies.successes_map_ok]
    rfl
  rw [hfed]
  refine isShare_updateAll Binary64.isShare_zero fun now hmem => ?_
  obtain ⟨read, hread, heq⟩ := List.mem_map.mp hmem
  obtain rfl := Except.ok.inj heq
  exact hreads read (List.mem_of_mem_take hread)

/-- The ticks of the readings that succeed are in range. -/
theorem inRange_of_mem_successes {path : Path} {hosts : List Host} {now : Jiffies}
    (h : now ∈ Jiffies.successes (hosts.map (ticks path))) : now.InRange := by
  obtain ⟨outcome, hmem, hnow⟩ := List.mem_filterMap.mp h
  obtain ⟨host, -, rfl⟩ := List.mem_map.mp hmem
  cases hticks : ticks path host with
  | error fault =>
    rw [hticks] at hnow
    cases hnow
  | ok read =>
    rw [hticks] at hnow
    cases hnow
    exact inRange_of_ticks hticks

/-- Readings of a meter that has not been read, on hosts in any state.  One that fails, with an
error or a panic, leaves the meter as it was, so that without all of these the others give the
same shares and leave the same meters.  The share that one of the others gives is never NaN; it
is the share of ticks that were not idle since the reading before, at the newest of the
readings up to this one at which the total rose, where fewer idle ticks than before count as
no more; and if the total never rose it is zero. -/
theorem shares_of_any_readings (path : Path) (hosts : List Host) :
    let meter : ProcessorMeter := { path }
    let reads := Jiffies.successes (hosts.map (ticks path))
    let ticksAt := Jiffies.ticksAfter reads
    (∀ (any : ProcessorMeter) host fault,
        ((any.read host).1 = .error fault ↔ ticks any.path host = .error fault) ∧
          ((any.read host).1 = .error fault → (any.read host).2 = any)) ∧
      meter.readings (hosts.filter fun host => (ticks path host).isOk) =
        (meter.readings hosts).filter (fun reading => reading.1.isOk) ∧
      (meter.shares hosts).length = reads.length ∧
      ∀ k < reads.length, ∃ share, (meter.shares hosts)[k]? = some share ∧ share ≠ .nan ∧
        ((∃ j ≤ k, (ticksAt j).total < (ticksAt (j + 1)).total ∧
            (∀ i, j < i → i ≤ k → (ticksAt (i + 1)).total ≤ (ticksAt i).total) ∧
            share = Binary64.clamp 0 100
              ((1 - Binary64.ofNat ((ticksAt (j + 1)).idle - (ticksAt j).idle) /
                Binary64.ofNat ((ticksAt (j + 1)).total - (ticksAt j).total)) * 100)) ∨
          (∀ j ≤ k, (ticksAt (j + 1)).total ≤ (ticksAt j).total) ∧ share = 0) := by
  intro meter reads ticksAt
  have hshares : meter.shares hosts =
      (List.range reads.length).map fun k => (meter.after reads (k + 1)).lastPercent :=
    shares_eq hosts meter
  refine ⟨fun any host fault => ⟨read_eq_error_iff, read_error⟩,
    readings_filter hosts meter, by simp [hshares], fun k hk => ?_⟩
  refine ⟨(meter.after reads (k + 1)).lastPercent, by simp [hshares, hk], ?_, ?_⟩
  · exact Binary64.ne_nan_of_isFinite
      (isShare_after (fun now => inRange_of_mem_successes) (k + 1) path).finite
  · have hclosed := lastPercent_after hk path
    simp only [Nat.succ_eq_add_one, Nat.lt_succ_iff] at hclosed
    exact hclosed

end ProcessorMeter

end ResourceHealth
