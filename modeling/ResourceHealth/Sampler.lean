import ResourceHealth.Event
import ResourceHealth.Source

/-!
# Samplers

A sampler turns the readings of a source into samples.  A sample is all or
nothing: if one reading fails all figures are zero.  Its time never goes back.

Main definitions:

- `Source.pass`: the three readings, in order, up to the first that fails.
- `Sampler`: the state of a source and the time of the newest sample.
- `Sampler.sample`: takes a sample.

Main results:

- Theorem `Sampler.lastTimestamp_sample`: the time of a sample is the clock's, or the time
  before if the clock went back.
-/

namespace ResourceHealth

/-- The readings of one pass. -/
structure Readings where
  cpu : Binary64
  memory : MemoryReading
  disk : Binary64
deriving DecidableEq

/-- Reads processor, memory and disk in this order, up to the first reading that fails. -/
def Source.pass {State World : Type} (source : Source State World) (world : World)
    (state : State) : Except Fault Readings × State :=
  match source.cpu world state with
  | (.error fault, state) => (.error fault, state)
  | (.ok cpu, state) =>
    match source.memory world state with
    | (.error fault, state) => (.error fault, state)
    | (.ok memory, state) =>
      match source.disk world state with
      | (.error fault, state) => (.error fault, state)
      | (.ok disk, state) => (.ok ⟨cpu, memory, disk⟩, state)

/-- The sample that readings amount to, cleaned. -/
def Sample.ofReadings (readings : Readings) (timestamp : Binary64) : Sample where
  cpu := Sample.percent readings.cpu
  memory := Sample.percent readings.memory.percent
  availableMb := Sample.amount readings.memory.availableMb
  disk := Sample.percent readings.disk
  timestamp := timestamp

/-- The moment at which an operation is carried out. -/
structure Moment (World : Type) where
  /-- What the clock shows, in seconds. -/
  clock : Binary64
  /-- What a source can see. -/
  world : World

/-- The state of a source and the time of the newest sample. -/
structure Sampler (State : Type) where
  source : State
  lastTimestamp : Binary64 := 0

namespace Sampler

variable {State World : Type}

/-- The time of the next sample: the clock's, unless it went back. -/
def nextTimestamp (sampler : Sampler State) (clock : Binary64) : Binary64 :=
  Binary64.max clock sampler.lastTimestamp

/-- Takes a sample.  When monitoring is disabled no reading is made; when a reading fails the
failure is logged. -/
def sample (source : Source State World) (enabled : Bool) (moment : Moment World)
    (sampler : Sampler State) : Outcome (Sampler State) Sample :=
  let timestamp := sampler.nextTimestamp moment.clock
  if enabled then
    match source.pass moment.world sampler.source with
    | (.ok readings, state) =>
      let sample := Sample.ofReadings readings timestamp
      { answer := .ok sample, state := ⟨state, timestamp⟩, events := [.sampled sample] }
    | (.error (.error cause), state) =>
      { answer := .ok (Sample.zeroed timestamp), state := ⟨state, timestamp⟩,
        events := [.failed cause] }
    | (.error (.panic cause), state) =>
      { answer := .error cause, state := ⟨state, timestamp⟩ }
  else
    { answer := .ok (Sample.zeroed timestamp),
      state := { sampler with lastTimestamp := timestamp } }

/-- The time of a sample is the clock's, or the time before if the clock went back. -/
theorem lastTimestamp_sample (source : Source State World) (enabled : Bool)
    (moment : Moment World) (sampler : Sampler State) :
    (sampler.sample source enabled moment).state.lastTimestamp =
      sampler.nextTimestamp moment.clock := by
  unfold sample
  simp only
  split
  · split <;> rfl
  · rfl

/-- The sampler as a listing of fields. -/
def listed (sampler : Sampler State) : String :=
  listing "Sampler" [("last_timestamp", sampler.lastTimestamp.labelledText)] [".."]

end Sampler

end ResourceHealth
