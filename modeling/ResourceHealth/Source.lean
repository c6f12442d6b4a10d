import ResourceHealth.Error
import ResourceHealth.Source.Memory

/-!
# Sources of readings

A source gives the three readings that make up a sample.  It may keep a state from
one reading to the next, and it reads from surroundings that are not its own.

Main definitions:

- `Source`: the three readings.
-/

namespace ResourceHealth

/-- A source with states `State` that reads from surroundings `World`.  Each reading gives a
figure or fails, and leaves a state. -/
structure Source (State World : Type) where
  /-- The share of processor time in use, in percent. -/
  cpu : World → State → Except Fault Binary64 × State
  /-- The share of memory in use and what is available. -/
  memory : World → State → Except Fault MemoryReading × State
  /-- The share of the file system in use, in percent. -/
  disk : World → State → Except Fault Binary64 × State

end ResourceHealth
