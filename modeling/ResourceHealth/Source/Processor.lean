import ResourceHealth.Binary64.Arithmetic
import ResourceHealth.Binary64.Text
import ResourceHealth.Field
import ResourceHealth.Source.Jiffies
import ResourceHealth.Source.Text

/-!
# Processor meter

The load of the processors is the share of ticks that were not idle since the
meter was read before.

Main definitions:

- `ProcessorMeter`: the path of the ticks, those of the last reading, and the share then
  shown.
- `ProcessorMeter.update`: the meter after a reading.
- `ProcessorMeter.read`: a reading on a host.

Main results:

- Theorem `ProcessorMeter.read_error`: a reading that fails leaves the meter alone.
-/

namespace ResourceHealth

/-- A meter for the load of the processors. -/
structure ProcessorMeter where
  path : Path
  last : Jiffies := Jiffies.zero
  lastPercent : Binary64 := 0
deriving DecidableEq

namespace ProcessorMeter

/-- The path of the kernel's text about the ticks. -/
def standardPath : Path := Path.ofString "/proc/stat"

/-- The share of ticks that were not idle, in percent. -/
def busyPercent (idleTicks totalTicks : Nat) : Binary64 :=
  Binary64.clamp 0 100
    ((1 - Binary64.ofNat idleTicks / Binary64.ofNat totalTicks) * 100)

/-- The meter after a reading.  Without new ticks the share shown before stays; the ticks are
measured from the newest reading even if they went backwards. -/
def update (meter : ProcessorMeter) (now : Jiffies) : ProcessorMeter :=
  let totalTicks := now.total - meter.last.total
  let idleTicks := now.idle - meter.last.idle
  { meter with
    last := now
    lastPercent :=
      if 0 < totalTicks then busyPercent idleTicks totalTicks else meter.lastPercent }

/-- The ticks in a host's file. -/
def ticks (path : Path) (host : Host) : Except Fault Jiffies :=
  match host.sourceText path with
  | .error cause => .error (.error cause)
  | .ok text => Jiffies.parse path text

/-- Takes a reading: the share, and the meter for the next reading. -/
def read (host : Host) (meter : ProcessorMeter) : Except Fault Binary64 × ProcessorMeter :=
  match ticks meter.path host with
  | .error fault => (.error fault, meter)
  | .ok now => (.ok (meter.update now).lastPercent, meter.update now)

/-- A reading that fails leaves the meter alone. -/
theorem read_error {host : Host} {meter : ProcessorMeter} {fault : Fault}
    (h : (meter.read host).1 = .error fault) : (meter.read host).2 = meter := by
  unfold read at *
  split at h
  · rfl
  · cases h

/-- The meter as a listing of fields. -/
def listed (meter : ProcessorMeter) : String :=
  listing "CpuSampler"
    [("path", meter.path.quoted), ("last", meter.last.listed),
      ("last_percent", meter.lastPercent.labelledText)] []

end ProcessorMeter

end ResourceHealth
