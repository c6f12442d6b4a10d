import Mathlib
import ResourceHealth.Source.Processor

/-!
# Processor meters over many readings

What a processor meter shows depends on nothing but what its readings of the ticks came to,
in their order.  A reading that failed leaves no trace, and the ticks are measured from the
newest ones that were read, however long ago that was.

Main definitions:

- `ProcessorMeter.unread`: a meter that has not been read.
- `ProcessorMeter.updateWith`: a reading, by what the ticks came to.
- `ProcessorMeter.updateAll`: the meter after some readings.
- `Jiffies.successes`: the ticks among outcomes.

Main results:

- Theorem `ProcessorMeter.foldl_read`: readings on hosts feed the meter with their ticks.
- Theorem `ProcessorMeter.updateAll_eq_foldl_update`: readings that failed count for nothing.
- Theorem `ProcessorMeter.last_fed`: the ticks that the next ones are measured from.
-/

namespace ResourceHealth

/-- The ticks among outcomes, without the failures. -/
def Jiffies.successes (outcomes : List (Except Fault Jiffies)) : List Jiffies :=
  outcomes.filterMap Except.toOption

namespace ProcessorMeter

/-- A meter that has not been read. -/
def unread : ProcessorMeter :=
  { path := standardPath }

/-- A reading, by what the ticks came to. -/
def updateWith (outcome : Except Fault Jiffies) (meter : ProcessorMeter) :
    Except Fault Binary64 × ProcessorMeter :=
  match outcome with
  | .error fault => (.error fault, meter)
  | .ok now => (.ok (meter.update now).lastPercent, meter.update now)

/-- A reading on a host depends on the ticks in the host's file and on nothing else of it. -/
theorem read_eq_updateWith (host : Host) (meter : ProcessorMeter) :
    meter.read host = meter.updateWith (ticks meter.path host) := by
  unfold read updateWith
  cases ticks meter.path host <;> rfl

/-- The meter after readings whose ticks came to the given outcomes. -/
def updateAll (outcomes : List (Except Fault Jiffies)) (meter : ProcessorMeter) : ProcessorMeter :=
  outcomes.foldl (fun current outcome => (current.updateWith outcome).2) meter

@[simp]
theorem updateAll_nil (meter : ProcessorMeter) : meter.updateAll [] = meter :=
  rfl

@[simp]
theorem updateAll_cons (outcome : Except Fault Jiffies) (rest : List (Except Fault Jiffies))
    (meter : ProcessorMeter) :
    meter.updateAll (outcome :: rest) = (meter.updateWith outcome).2.updateAll rest :=
  rfl

/-- Readings that failed count for nothing: the others leave the same meter. -/
theorem updateAll_eq_foldl_update (outcomes : List (Except Fault Jiffies))
    (meter : ProcessorMeter) :
    meter.updateAll outcomes = (Jiffies.successes outcomes).foldl update meter := by
  induction outcomes generalizing meter with
  | nil => rfl
  | cons outcome rest ih =>
    cases outcome with
    | error fault => exact ih meter
    | ok now => exact ih (meter.update now)

@[simp]
theorem path_updateAll (outcomes : List (Except Fault Jiffies)) (meter : ProcessorMeter) :
    (meter.updateAll outcomes).path = meter.path := by
  induction outcomes generalizing meter with
  | nil => rfl
  | cons outcome rest ih =>
    rw [updateAll_cons, ih]
    cases outcome <;> rfl

/-- Readings on hosts update the meter with the ticks in their files. -/
theorem foldl_read (hosts : List Host) (meter : ProcessorMeter) :
    hosts.foldl (fun current host => (current.read host).2) meter =
      meter.updateAll (hosts.map (ticks meter.path)) := by
  induction hosts generalizing meter with
  | nil => rfl
  | cons host rest ih =>
    have hpath : (meter.updateWith (ticks meter.path host)).2.path = meter.path :=
      path_updateAll [ticks meter.path host] meter
    rw [List.foldl_cons, ih, read_eq_updateWith, hpath, List.map_cons, updateAll_cons]

/-- The next ticks are measured from the newest ones that were read. -/
theorem last_fed (outcomes : List (Except Fault Jiffies)) (meter : ProcessorMeter) :
    (meter.updateAll outcomes).last = (Jiffies.successes outcomes).getLast?.getD meter.last := by
  rw [updateAll_eq_foldl_update]
  induction Jiffies.successes outcomes using List.reverseRecOn with
  | nil => rfl
  | append_singleton earlier now _ => simp [update]

end ProcessorMeter

end ResourceHealth
