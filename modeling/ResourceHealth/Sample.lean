import ResourceHealth.Binary64.Arithmetic
import ResourceHealth.Binary64.Text
import ResourceHealth.Field

/-!
# Samples

One round of readings of the three resources, with the time at which it was made.

Main definitions:

- `Sample`: the readings.
- `Sample.zeroed`: what stands for a round that was not made or failed.
- `Sample.percent`, `Sample.amount`: how raw readings are cleaned.
- `Sample.byName`: the figures by name.
- `Sample.summary`: the readings on one line.
-/

namespace ResourceHealth

/-- One round of readings. -/
structure Sample where
  /-- The share of processor time in use, in percent. -/
  cpu : Binary64
  /-- The share of memory in use, in percent. -/
  memory : Binary64
  /-- The memory that is available, in units of `2 ^ 20` bytes. -/
  availableMb : Binary64
  /-- The share of the file system in use, in percent. -/
  disk : Binary64
  /-- The time of the round, in seconds. -/
  timestamp : Binary64
deriving DecidableEq

namespace Sample

/-- All readings zero. -/
def zeroed (timestamp : Binary64) : Sample :=
  ⟨0, 0, 0, 0, timestamp⟩

/-- Whether all readings are zero, of whichever sign. -/
def isZeroed (sample : Sample) : Bool :=
  [sample.cpu, sample.memory, sample.availableMb, sample.disk].all (·.equals 0)

/-- The name of the record. -/
def recordName : String := "ResourceMetrics"

/-- The figures by name, in the order in which they are written. -/
def fields : List (Field Sample Binary64) := [
  ⟨"cpu_percent", (·.cpu), fun x s => { s with cpu := x }⟩,
  ⟨"memory_percent", (·.memory), fun x s => { s with memory := x }⟩,
  ⟨"memory_available_mb", (·.availableMb), fun x s => { s with availableMb := x }⟩,
  ⟨"disk_percent", (·.disk), fun x s => { s with disk := x }⟩,
  ⟨"timestamp", (·.timestamp), fun x s => { s with timestamp := x }⟩]

/-- The figures by name, in the order of the names. -/
def byName (sample : Sample) : List (String × Binary64) := [
  ("cpu_percent", sample.cpu),
  ("disk_percent", sample.disk),
  ("memory_available_mb", sample.availableMb),
  ("memory_percent", sample.memory),
  ("timestamp", sample.timestamp)]

/-- The readings on one line. -/
def summary (sample : Sample) : String :=
  "CPU " ++ sample.cpu.fixed 1 ++ "%, Mem " ++ sample.memory.fixed 1 ++ "% (" ++
    sample.availableMb.fixed 0 ++ " MB avail), Disk " ++ sample.disk.fixed 1 ++ "%"

/-! ## Cleaning -/

/-- A share between zero and a hundred; what is not finite becomes zero. -/
def percent (reading : Binary64) : Binary64 :=
  if reading.isFinite then Binary64.clamp 0 100 reading else 0

/-- An amount that is not below zero; what is not finite becomes zero. -/
def amount (reading : Binary64) : Binary64 :=
  if reading.isFinite then Binary64.max reading 0 else 0

end Sample

end ResourceHealth
