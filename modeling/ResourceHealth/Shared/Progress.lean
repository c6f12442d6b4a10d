import ResourceHealth.Shared

/-!
# Operations step by step

An operation that holds the lock goes on in steps, each of which looks at one part of
the monitor or changes one.  Nothing but the lock keeps the steps of two operations
apart.

Main definitions:

- `Progress`: how far an operation has come.
- `Progress.advance`: its next step.
-/

namespace ResourceHealth

/-- How far an operation that holds the lock has come. -/
inductive Progress (World : Type) where
  /-- Nothing has been looked at. -/
  | begun (moment : Moment World)
  /-- A sample is needed. -/
  | sampling (moment : Moment World)
  /-- The switch has been looked at. -/
  | switched (moment : Moment World) (enabled : Bool)
  /-- The time of the sample is set and the source is to be read. -/
  | timed (world : World) (timestamp : Binary64)
  /-- The processor has been read. -/
  | readCpu (world : World) (timestamp : Binary64) (cpu : Binary64)
  /-- The memory has been read too. -/
  | readMemory (world : World) (timestamp : Binary64) (cpu : Binary64) (memory : MemoryReading)
  /-- All has been read. -/
  | measured (readings : Readings) (timestamp : Binary64)
  /-- The sample is made, and the history does not have it. -/
  | taken (sample : Sample)
  /-- The newest sample of the history is at hand. -/
  | kept (latest : Sample)
  /-- The answer is known. -/
  | ended (answer : Answer)

namespace Progress

variable {State World Value : Type}

/-- A reading of the source.  After an error the sample is zero, and the error is logged. -/
def reading (read : State → Except Fault Value × State) (timestamp : Binary64)
    (next : Value → Progress World) (monitor : Monitor State) :
    Outcome (Monitor State) (Progress World) :=
  let result := read monitor.sampler.source
  let state := { monitor with sampler := { monitor.sampler with source := result.2 } }
  match result.1 with
  | .ok value => { answer := .ok (next value), state }
  | .error (.error cause) =>
    { answer := .ok (.taken (Sample.zeroed timestamp)), state, events := [.failed cause] }
  | .error (.panic cause) => { answer := .error cause, state }

/-- The next step of an operation.  Operations that never sample are a single step. -/
def advance (source : Source State World) (operation : Operation) (progress : Progress World)
    (monitor : Monitor State) : Outcome (Monitor State) (Progress World) :=
  match progress with
  | begun moment =>
    match operation with
    | .sample => { answer := .ok (sampling moment), state := monitor }
    | .health | .available =>
      match monitor.history.latest? with
      | some latest => { answer := .ok (kept latest), state := monitor }
      | none => { answer := .ok (sampling moment), state := monitor }
    | _ => (monitor.perform source operation moment).map ended
  | sampling moment => { answer := .ok (switched moment monitor.enabled), state := monitor }
  | switched moment enabled =>
    let timestamp := monitor.sampler.nextTimestamp moment.clock
    { answer :=
        .ok (if enabled then timed moment.world timestamp else taken (Sample.zeroed timestamp))
      state := { monitor with sampler := { monitor.sampler with lastTimestamp := timestamp } } }
  | timed world timestamp =>
    reading (source.cpu world) timestamp (readCpu world timestamp) monitor
  | readCpu world timestamp cpu =>
    reading (source.memory world) timestamp (readMemory world timestamp cpu) monitor
  | readMemory world timestamp cpu memory =>
    reading (source.disk world) timestamp
      (fun disk => measured ⟨cpu, memory, disk⟩ timestamp) monitor
  | measured readings timestamp =>
    let sample := Sample.ofReadings readings timestamp
    { answer := .ok (taken sample), state := monitor, events := [.sampled sample] }
  | taken sample =>
    { answer := .ok (kept sample)
      state := { monitor with history := monitor.history.push sample } }
  | kept latest =>
    { answer := .ok (ended (operation.reply latest monitor.thresholds)), state := monitor }
  | ended answer => { answer := .ok (ended answer), state := monitor }

end Progress

end ResourceHealth
