import ResourceHealth.Proofs.Binary64.Order
import ResourceHealth.Sampler

/-!
# What a sampler answers

The answer of a sampler depends on the switch, on the outcome of one pass over the
source and on the time.  Whatever the source reads, the figures of the sample are in
range.

Main definitions:

- `Sample.InRange`: shares are between zero and a hundred, the amount is not below zero.
- `Sample.ofPass`: the answer for the outcome of a pass.
- `Source.Steady`: a source that never panics.

Main results:

- Theorem `Sampler.answer_sample`: a sampler answers by the outcome of one pass.
- Theorem `Sampler.exists_sample_of_steady`: with a steady source it always does.
- Theorem `Sampler.inRange_of_sample`: what it answers is in range.
- Theorem `Sampler.timestamp_of_sample`: and bears the time of the sampler.
-/

namespace ResourceHealth

/-! ## Figures in range -/

/-- A finite share between zero and a hundred. -/
structure Binary64.IsShare (figure : Binary64) : Prop where
  finite : figure.isFinite = true
  nonneg : 0 ≤ figure
  le_hundred : figure ≤ 100

/-- A finite amount that is not below zero. -/
structure Binary64.IsAmount (figure : Binary64) : Prop where
  finite : figure.isFinite = true
  nonneg : 0 ≤ figure

theorem Binary64.isShare_zero : (0 : Binary64).IsShare where
  finite := isFinite_zero
  nonneg := le_refl (ne_nan_of_isFinite isFinite_zero)
  le_hundred := zero_le_hundred

theorem Binary64.isAmount_zero : (0 : Binary64).IsAmount :=
  ⟨isShare_zero.finite, isShare_zero.nonneg⟩

namespace Sample

/-- All figures are in range. -/
structure InRange (sample : Sample) : Prop where
  cpu : sample.cpu.IsShare
  memory : sample.memory.IsShare
  availableMb : sample.availableMb.IsAmount
  disk : sample.disk.IsShare

/-- A cleaned share is in range, whatever was read. -/
theorem isShare_percent (reading : Binary64) : (percent reading).IsShare := by
  unfold percent
  split
  · rename_i hfinite
    have hnan : reading ≠ .nan := Binary64.ne_nan_of_isFinite hfinite
    exact
      { finite := Binary64.isFinite_clamp Binary64.isFinite_zero Binary64.isFinite_hundred hfinite
        nonneg := Binary64.le_clamp Binary64.zero_le_hundred hnan
        le_hundred := Binary64.clamp_le Binary64.zero_le_hundred hnan }
  · exact Binary64.isShare_zero

/-- A cleaned amount is in range, whatever was read. -/
theorem isAmount_amount (reading : Binary64) : (amount reading).IsAmount := by
  unfold amount
  split
  · rename_i hfinite
    constructor
    · rcases Binary64.max_eq_or reading 0 with h | h
      · rw [h]
        exact hfinite
      · rw [h]
        exact Binary64.isFinite_zero
    · exact Binary64.le_max_right (Binary64.ne_nan_of_isFinite Binary64.isFinite_zero)
  · exact Binary64.isAmount_zero

theorem inRange_zeroed (timestamp : Binary64) : (zeroed timestamp).InRange where
  cpu := Binary64.isShare_zero
  memory := Binary64.isShare_zero
  availableMb := Binary64.isAmount_zero
  disk := Binary64.isShare_zero

/-- A sample made of readings is in range, whatever the readings are. -/
theorem inRange_ofReadings (readings : Readings) (timestamp : Binary64) :
    (ofReadings readings timestamp).InRange where
  cpu := isShare_percent _
  memory := isShare_percent _
  availableMb := isAmount_amount _
  disk := isShare_percent _

/-! ## The answer for the outcome of a pass -/

/-- What a sampler answers: the readings of the pass, zeros when there are none, and nothing
after a panic. -/
def ofPass (enabled : Bool) (result : Except Fault Readings) (timestamp : Binary64) :
    Except Panic Sample :=
  if enabled then
    match result with
    | .ok readings => .ok (ofReadings readings timestamp)
    | .error (.error _) => .ok (zeroed timestamp)
    | .error (.panic cause) => .error cause
  else .ok (zeroed timestamp)

/-- A sample is either all zeros or the readings of the whole pass. -/
theorem ofPass_eq_ok {enabled : Bool} {result : Except Fault Readings} {timestamp : Binary64}
    {sample : Sample} (h : ofPass enabled result timestamp = .ok sample) :
    sample = zeroed timestamp ∨ ∃ readings, sample = ofReadings readings timestamp := by
  unfold ofPass at h
  split at h
  · split at h
    · cases h
      exact Or.inr ⟨_, rfl⟩
    · cases h
      exact Or.inl rfl
    · cases h
  · cases h
    exact Or.inl rfl

/-- There is no sample exactly when an enabled pass panics. -/
theorem ofPass_eq_error_iff {enabled : Bool} {result : Except Fault Readings}
    {timestamp : Binary64} {cause : Panic} :
    ofPass enabled result timestamp = .error cause ↔
      enabled = true ∧ result = .error (.panic cause) := by
  unfold ofPass
  rcases result with (error | panic) | readings <;> cases enabled <;> simp

end Sample

/-! ## Sources without panics -/

namespace Source

variable {State World : Type}

/-- A source none of whose readings ever panics. -/
structure Steady (source : Source State World) : Prop where
  cpu : ∀ world state cause, (source.cpu world state).1 ≠ .error (.panic cause)
  memory : ∀ world state cause, (source.memory world state).1 ≠ .error (.panic cause)
  disk : ∀ world state cause, (source.disk world state).1 ≠ .error (.panic cause)

/-- Nor does a pass over it panic. -/
theorem Steady.pass_ne_panic {source : Source State World} (h : source.Steady) (world : World)
    (state : State) (cause : Panic) : (source.pass world state).1 ≠ .error (.panic cause) := by
  unfold pass
  rcases hcpu : source.cpu world state with ⟨fault | cpu, afterCpu⟩
  · have hfault := h.cpu world state cause
    rw [hcpu] at hfault
    simpa using hfault
  · rcases hmemory : source.memory world afterCpu with ⟨fault | memory, afterMemory⟩
    · have hfault := h.memory world afterCpu cause
      rw [hmemory] at hfault
      simpa [hmemory] using hfault
    · rcases hdisk : source.disk world afterMemory with ⟨fault | disk, afterDisk⟩
      · have hfault := h.disk world afterMemory cause
        rw [hdisk] at hfault
        simpa [hmemory, hdisk] using hfault
      · simp [hmemory, hdisk]

/-- A source that reads what its surroundings show. -/
def mirror : Source Unit Readings where
  cpu world state := (.ok world.cpu, state)
  memory world state := (.ok world.memory, state)
  disk world state := (.ok world.disk, state)

/-- The source that reads what its surroundings show does not panic. -/
theorem steady_mirror : mirror.Steady where
  cpu _ _ _ := nofun
  memory _ _ _ := nofun
  disk _ _ _ := nofun

end Source

/-! ## Answers -/

namespace Sampler

variable {State World : Type}

/-- A sampler answers by the outcome of one pass over its source. -/
theorem answer_sample (source : Source State World) (enabled : Bool) (moment : Moment World)
    (sampler : Sampler State) :
    (sampler.sample source enabled moment).answer =
      Sample.ofPass enabled (source.pass moment.world sampler.source).1
        (sampler.nextTimestamp moment.clock) := by
  unfold sample Sample.ofPass
  cases enabled with
  | false => rfl
  | true =>
    rcases source.pass moment.world sampler.source with ⟨(error | panic) | readings, state⟩ <;>
      rfl

/-- With a steady source there is always a sample. -/
theorem exists_sample_of_steady {source : Source State World} (h : source.Steady)
    (enabled : Bool) (moment : Moment World) (sampler : Sampler State) :
    ∃ sample, (sampler.sample source enabled moment).answer = .ok sample := by
  cases hanswer : (sampler.sample source enabled moment).answer with
  | ok sample => exact ⟨sample, rfl⟩
  | error cause =>
    rw [answer_sample, Sample.ofPass_eq_error_iff] at hanswer
    exact absurd hanswer.2 (h.pass_ne_panic _ _ _)

/-- What a sampler answers is in range. -/
theorem inRange_of_sample {source : Source State World} {enabled : Bool}
    {moment : Moment World} {sampler : Sampler State} {sample : Sample}
    (h : (sampler.sample source enabled moment).answer = .ok sample) : sample.InRange := by
  rw [answer_sample] at h
  rcases Sample.ofPass_eq_ok h with rfl | ⟨readings, rfl⟩
  · exact Sample.inRange_zeroed _
  · exact Sample.inRange_ofReadings _ _

/-- What a sampler answers bears the time that the sampler then keeps. -/
theorem timestamp_of_sample {source : Source State World} {enabled : Bool}
    {moment : Moment World} {sampler : Sampler State} {sample : Sample}
    (h : (sampler.sample source enabled moment).answer = .ok sample) :
    sample.timestamp = (sampler.sample source enabled moment).state.lastTimestamp := by
  rw [lastTimestamp_sample]
  rw [answer_sample] at h
  rcases Sample.ofPass_eq_ok h with rfl | ⟨readings, rfl⟩ <;> rfl

/-- The time of a sampler never goes back. -/
theorem le_lastTimestamp_sample (source : Source State World) (enabled : Bool)
    (moment : Moment World) {sampler : Sampler State} (hlast : sampler.lastTimestamp ≠ .nan) :
    sampler.lastTimestamp ≤ (sampler.sample source enabled moment).state.lastTimestamp := by
  rw [lastTimestamp_sample]
  exact Binary64.le_max_right hlast

end Sampler

end ResourceHealth
