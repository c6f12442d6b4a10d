import ResourceHealth.Proofs.Monitor.Passes

/-!
# Which readings are made

A source can be watched: beside its own state it then keeps which readings were made.  A
monitor cannot tell whether its source is watched, so what is kept for a watched source says
which readings the same monitor makes of the source itself.

Main definitions:

- `Source.traced`: the source that keeps which readings were made.
- `Source.readings`: the readings that a pass makes.
- `Monitor.untraced`: a monitor without what is kept.
- `Monitor.readings`: the readings that an operation makes.

Main results:

- Theorem `Source.readings_prefix`: a pass reads processor, memory and disk in this order.
- Theorem `Monitor.perform_untraced`: watching the source makes no difference.
- Theorem `Monitor.log_perform`: what an operation adds to what is kept.
-/

namespace ResourceHealth

/-! ## Passes -/

namespace Source

variable {State World : Type}

/-- The source that also keeps which readings were made, in their order. -/
def traced (source : Source State World) : Source (State × List Resource) World where
  cpu world state :=
    let reading := source.cpu world state.1
    (reading.1, reading.2, state.2 ++ [.cpu])
  memory world state :=
    let reading := source.memory world state.1
    (reading.1, reading.2, state.2 ++ [.memory])
  disk world state :=
    let reading := source.disk world state.1
    (reading.1, reading.2, state.2 ++ [.disk])

/-- The readings that a pass makes, up to the first that fails. -/
def readings (source : Source State World) (world : World) (state : State) : List Resource :=
  match source.cpu world state with
  | (.error _, _) => [.cpu]
  | (.ok _, second) =>
    match source.memory world second with
    | (.error _, _) => [.cpu, .memory]
    | (.ok _, _) => [.cpu, .memory, .disk]

/-- A pass reads processor, memory and disk in this order, each at most once. -/
theorem readings_prefix (source : Source State World) (world : World) (state : State) :
    source.readings world state <+: [.cpu, .memory, .disk] := by
  unfold readings
  split
  · exact ⟨[.memory, .disk], rfl⟩
  · split
    · exact ⟨[.disk], rfl⟩
    · exact List.prefix_rfl

/-- A watched pass comes to the same and adds the readings that it makes. -/
theorem pass_traced (source : Source State World) (world : World) (state : State)
    (log : List Resource) :
    source.traced.pass world (state, log) =
      ((source.pass world state).1, (source.pass world state).2,
        log ++ source.readings world state) := by
  rcases hcpu : source.cpu world state with ⟨fault | cpu, second⟩
  · simp [pass, readings, traced, hcpu]
  rcases hmemory : source.memory world second with ⟨fault | memory, third⟩
  · simp [pass, readings, traced, hcpu, hmemory]
  rcases hdisk : source.disk world third with ⟨fault | disk, last⟩ <;>
    simp [pass, readings, traced, hcpu, hmemory, hdisk]

end Source

/-- The outcome with its state put in another form. -/
def Outcome.mapState {State Other Answer : Type} (f : State → Other)
    (outcome : Outcome State Answer) : Outcome Other Answer where
  answer := outcome.answer
  state := f outcome.state
  events := outcome.events

/-- The sampler without what its source keeps about readings. -/
def Sampler.untraced {State : Type} (sampler : Sampler (State × List Resource)) :
    Sampler State where
  source := sampler.source.1
  lastTimestamp := sampler.lastTimestamp

/-- Taking a sample is the same, whether the source is watched or not. -/
theorem Sampler.sample_untraced {State World : Type} (source : Source State World)
    (enabled : Bool) (moment : Moment World) (sampler : Sampler (State × List Resource)) :
    sampler.untraced.sample source enabled moment =
      (sampler.sample source.traced enabled moment).mapState untraced := by
  cases enabled with
  | false => rfl
  | true =>
    rcases sampler with ⟨⟨state, log⟩, last⟩
    simp only [Sampler.sample, untraced, Source.pass_traced, if_true]
    rcases source.pass moment.world state with ⟨(error | panic) | readings, next⟩ <;> rfl

/-! ## Operations -/

namespace Monitor

variable {State World : Type}

/-- The monitor without what its source keeps about readings. -/
def untraced (monitor : Monitor (State × List Resource)) : Monitor State where
  thresholds := monitor.thresholds
  history := monitor.history
  enabled := monitor.enabled
  sampler := monitor.sampler.untraced

/-- The readings that an operation makes: those of one pass if it takes a sample while
monitoring is enabled, otherwise none. -/
def readings (source : Source State World) (operation : Operation) (moment : Moment World)
    (monitor : Monitor State) : List Resource :=
  if monitor.reads operation then
    source.readings moment.world monitor.sampler.source
  else []

/-- Tracing does not change which operations take a sample. -/
@[simp]
theorem takes_untraced (operation : Operation) (monitor : Monitor (State × List Resource)) :
    monitor.untraced.takes operation = monitor.takes operation := by
  cases operation <;> rfl

@[simp]
theorem reads_untraced (operation : Operation) (monitor : Monitor (State × List Resource)) :
    monitor.untraced.reads operation = monitor.reads operation := by
  rw [reads, takes_untraced]
  rfl

/-- Tracing does not change what a sample is. -/
theorem sample_untraced (source : Source State World) (moment : Moment World)
    (monitor : Monitor (State × List Resource)) :
    monitor.untraced.sample source moment =
      (monitor.sample source.traced moment).mapState untraced := by
  have hsampler : monitor.untraced.sampler.sample source monitor.untraced.enabled moment =
      (monitor.sampler.sample source.traced monitor.enabled moment).mapState
        Sampler.untraced := Sampler.sample_untraced source monitor.enabled moment monitor.sampler
  unfold Monitor.sample
  simp only [hsampler, Outcome.mapState]
  cases (monitor.sampler.sample source.traced monitor.enabled moment).answer <;> rfl

/-- Watching the source makes no difference to an operation. -/
theorem perform_untraced (source : Source State World) (operation : Operation)
    (moment : Moment World) (monitor : Monitor (State × List Resource)) :
    monitor.untraced.perform source operation moment =
      (monitor.perform source.traced operation moment).mapState untraced := by
  have hhealth : monitor.untraced.health source moment =
      (monitor.health source.traced moment).mapState untraced := by
    have hlatest : monitor.untraced.history.latest? = monitor.history.latest? := rfl
    unfold health
    rw [hlatest]
    cases monitor.history.latest? with
    | none =>
      simp only [sample_untraced]
      rfl
    | some latest => rfl
  cases operation with
  | sample =>
    simp only [perform, sample_untraced]
    rfl
  | health =>
    simp only [perform, hhealth]
    rfl
  | available =>
    simp only [perform, available, hhealth]
    rfl
  | _ => rfl

/-- Nor does it make one to a run. -/
theorem after_untraced (source : Source State World)
    (operations : List (Operation × Moment World))
    (monitor : Monitor (State × List Resource)) :
    monitor.untraced.after source operations =
      (monitor.after source.traced operations).untraced := by
  induction operations generalizing monitor with
  | nil => rfl
  | cons step rest ih =>
    rw [after_cons, after_cons, ← ih, perform_untraced]
    rfl

/-- What an operation adds to what is kept are the readings that it makes. -/
theorem log_perform (source : Source State World) (operation : Operation)
    (moment : Moment World) (monitor : Monitor (State × List Resource)) :
    (monitor.perform source.traced operation moment).state.sampler.source.2 =
      monitor.sampler.source.2 ++ monitor.untraced.readings source operation moment := by
  rw [source_perform, readings, reads_untraced]
  cases monitor.reads operation with
  | true => exact congrArg (·.2.2) (source.pass_traced moment.world _ _)
  | false => exact (List.append_nil _).symm

end Monitor

end ResourceHealth
