import Mathlib
import ResourceHealth.Proofs.Monitor.Traced
import ResourceHealth.Proofs.Source.Range

/-!
# How a sample comes about

A pass over a source goes one of four ways: one of the three readings is the first to fail,
and it is the last that is made, or none fails.  A sample is made of all readings of one pass
or of none of them.

Main definitions:

- `Source.PassTrace`: how a pass goes, as a relation that does not follow the program.
- `Sampler.tracedFrom`: a sampler whose source keeps which readings were made.

Main results:

- Theorem `Source.PassTrace.pass_eq`: what a pass that goes this way comes to.
- Theorem `Source.exists_passTrace`: every pass goes one of these ways.
- Theorem `Sampler.sample_all_or_nothing`: what is read for a sample, and what it shows.
-/

namespace ResourceHealth

/-! ## Cleaning -/

namespace Sample

variable {reading : Binary64}

/-- A percentage that is not finite is cleaned to zero. -/
theorem percent_of_not_finite (h : reading.isFinite = false) : percent reading = 0 := by
  simp [percent, h]

theorem percent_of_lt_zero (hfinite : reading.isFinite = true) (h : reading < 0) :
    percent reading = 0 := by
  rw [percent, if_pos hfinite, Binary64.clamp, if_pos h]

theorem percent_of_hundred_lt (hfinite : reading.isFinite = true) (h : 100 < reading) :
    percent reading = 100 := by
  have hzero : 0 ≤ reading := Binary64.le_trans Binary64.zero_le_hundred (Binary64.le_of_lt h)
  rw [percent, if_pos hfinite, Binary64.clamp, if_neg (Binary64.not_lt_of_le hzero), if_pos h]

/-- A finite positive amount is left as it is. -/
theorem amount_of_pos (hfinite : reading.isFinite = true) (h : 0 < reading) :
    amount reading = reading := by
  have hne : reading ≠ .nan := Binary64.ne_nan_of_isFinite hfinite
  have hnot : ¬ reading ≤ 0 := fun hle => Binary64.not_lt_of_le hle h
  simp [amount, Binary64.max, hfinite, hne, hnot]

/-- What is not positive becomes zero, also a zero with a minus sign. -/
theorem amount_of_not_pos (h : ¬ (reading.isFinite = true ∧ 0 < reading)) :
    amount reading = 0 := by
  unfold amount
  split
  · rename_i hfinite
    have hle : reading ≤ 0 :=
      Binary64.le_of_not_lt (Binary64.ne_nan_of_isFinite Binary64.isFinite_zero)
        (Binary64.ne_nan_of_isFinite hfinite) fun hpos => h ⟨hfinite, hpos⟩
    rw [Binary64.max, if_pos (Or.inr hle)]
  · rfl

example : percent (-0) = -0 ∧ amount (-0) = 0 := by decide +kernel

end Sample

/-! ## Passes -/

namespace Source

variable {State World : Type} {source : Source State World} {world : World} {state last : State}
  {reads : List Resource} {result : Except Fault Readings}

/-- How a pass over a source goes: which readings are made, in their order, what they come to,
and the state that they leave.  Each reading starts from the state that the one before left,
and none follows a reading that fails. -/
inductive PassTrace (source : Source State World) (world : World) (state : State) :
    List Resource → Except Fault Readings → State → Prop
  | cpuFails {fault : Fault} {last : State}
      (hcpu : source.cpu world state = (.error fault, last)) :
      PassTrace source world state [.cpu] (.error fault) last
  | memoryFails {cpu : Binary64} {fault : Fault} {second last : State}
      (hcpu : source.cpu world state = (.ok cpu, second))
      (hmemory : source.memory world second = (.error fault, last)) :
      PassTrace source world state [.cpu, .memory] (.error fault) last
  | diskFails {cpu : Binary64} {memory : MemoryReading} {fault : Fault}
      {second third last : State} (hcpu : source.cpu world state = (.ok cpu, second))
      (hmemory : source.memory world second = (.ok memory, third))
      (hdisk : source.disk world third = (.error fault, last)) :
      PassTrace source world state [.cpu, .memory, .disk] (.error fault) last
  | noneFails {cpu disk : Binary64} {memory : MemoryReading} {second third last : State}
      (hcpu : source.cpu world state = (.ok cpu, second))
      (hmemory : source.memory world second = (.ok memory, third))
      (hdisk : source.disk world third = (.ok disk, last)) :
      PassTrace source world state [.cpu, .memory, .disk] (.ok ⟨cpu, memory, disk⟩) last

/-- What a pass that goes this way comes to. -/
theorem PassTrace.pass_eq (h : source.PassTrace world state reads result last) :
    source.pass world state = (result, last) := by
  cases h with
  | cpuFails hcpu => simp [pass, hcpu]
  | memoryFails hcpu hmemory => simp [pass, hcpu, hmemory]
  | diskFails hcpu hmemory hdisk => simp [pass, hcpu, hmemory, hdisk]
  | noneFails hcpu hmemory hdisk => simp [pass, hcpu, hmemory, hdisk]

/-- The readings that it makes are those that the source keeps when it is watched. -/
theorem PassTrace.readings_eq (h : source.PassTrace world state reads result last) :
    source.readings world state = reads := by
  cases h with
  | cpuFails hcpu => simp [readings, hcpu]
  | memoryFails hcpu hmemory => simp [readings, hcpu, hmemory]
  | diskFails hcpu hmemory hdisk => simp [readings, hcpu, hmemory]
  | noneFails hcpu hmemory hdisk => simp [readings, hcpu, hmemory]

/-- Every pass goes one of these ways. -/
theorem exists_passTrace (source : Source State World) (world : World) (state : State) :
    ∃ reads result last, source.PassTrace world state reads result last := by
  rcases hcpu : source.cpu world state with ⟨fault | cpu, second⟩
  · exact ⟨_, _, _, .cpuFails hcpu⟩
  rcases hmemory : source.memory world second with ⟨fault | memory, third⟩
  · exact ⟨_, _, _, .memoryFails hcpu hmemory⟩
  rcases hdisk : source.disk world third with ⟨fault | disk, last⟩
  · exact ⟨_, _, _, .diskFails hcpu hmemory hdisk⟩
  · exact ⟨_, _, _, .noneFails hcpu hmemory hdisk⟩

end Source

/-! ## Samples -/

namespace Sampler

variable {State World : Type}

/-- The sampler over a source that has kept some readings. -/
def tracedFrom (log : List Resource) (sampler : Sampler State) :
    Sampler (State × List Resource) where
  source := (sampler.source, log)
  lastTimestamp := sampler.lastTimestamp

/-- What a sample adds to what its source keeps are the readings of one pass, or none while
sampling is disabled. -/
theorem source_sample_tracedFrom (source : Source State World) (enabled : Bool)
    (moment : Moment World) (log : List Resource) (sampler : Sampler State) :
    ((sampler.tracedFrom log).sample source.traced enabled moment).state.source =
      if enabled then
        ((source.pass moment.world sampler.source).2,
          log ++ source.readings moment.world sampler.source)
      else (sampler.source, log) := by
  rw [source_sample]
  simp only [tracedFrom, Source.pass_traced]

/-- A traced sampler answers as the pass of the source it traces does. -/
theorem answer_sample_tracedFrom (source : Source State World) (enabled : Bool)
    (moment : Moment World) (log : List Resource) (sampler : Sampler State) :
    ((sampler.tracedFrom log).sample source.traced enabled moment).answer =
      Sample.ofPass enabled (source.pass moment.world sampler.source).1
        (sampler.nextTimestamp moment.clock) := by
  rw [answer_sample]
  simp only [tracedFrom, Source.pass_traced]
  rfl

/-- What is read for a sample, and what it shows, for any source, sampler and moment; the
source is watched, which makes no difference.

While sampling is disabled nothing is read and all figures are zero.  Otherwise one pass is
made: if all its readings succeed the sample shows each of them cleaned, and if one fails with
an error all figures are zero; only a panic leaves no sample, and a source that never panics
always leaves one.  The time is the later of the clock's and the sampler's.

Cleaning keeps a share between zero and a hundred, takes the nearer of these bounds for another
finite one and zero for what is not finite; it keeps a finite amount above zero and takes zero
for any other. -/
theorem sample_all_or_nothing (source : Source State World) (enabled : Bool)
    (moment : Moment World) (log : List Resource) (sampler : Sampler State) :
    let outcome := (sampler.tracedFrom log).sample source.traced enabled moment
    let timestamp := Binary64.max moment.clock sampler.lastTimestamp
    sampler.sample source enabled moment = outcome.mapState untraced ∧
      (enabled = false →
        outcome.state.source = (sampler.source, log) ∧
          outcome.answer = .ok ⟨0, 0, 0, 0, timestamp⟩) ∧
      (enabled = true →
        ∃ reads result last, source.PassTrace moment.world sampler.source reads result last ∧
          outcome.state.source = (last, log ++ reads) ∧
          (∀ readings, result = .ok readings → outcome.answer = .ok
            { cpu := Sample.percent readings.cpu
              memory := Sample.percent readings.memory.percent
              availableMb := Sample.amount readings.memory.availableMb
              disk := Sample.percent readings.disk
              timestamp }) ∧
          (∀ cause, result = .error (.error cause) →
            outcome.answer = .ok ⟨0, 0, 0, 0, timestamp⟩) ∧
          ∀ cause, result = .error (.panic cause) → outcome.answer = .error cause) ∧
      (source.Steady → ∃ sample, outcome.answer = .ok sample) ∧
      outcome.state.lastTimestamp = timestamp ∧
      (timestamp = moment.clock ∨ timestamp = sampler.lastTimestamp) ∧
      (moment.clock ≠ .nan → moment.clock ≤ timestamp) ∧
      (sampler.lastTimestamp ≠ .nan → sampler.lastTimestamp ≤ timestamp) ∧
      ∀ reading : Binary64,
        (reading.isFinite = true → 0 ≤ reading → reading ≤ 100 →
          Sample.percent reading = reading) ∧
        (reading.isFinite = true → reading < 0 → Sample.percent reading = 0) ∧
        (reading.isFinite = true → 100 < reading → Sample.percent reading = 100) ∧
        (reading.isFinite = false → Sample.percent reading = 0) ∧
        (reading.isFinite = true → 0 < reading → Sample.amount reading = reading) ∧
        (¬ (reading.isFinite = true ∧ 0 < reading) → Sample.amount reading = 0) := by
  intro outcome timestamp
  have hanswer : outcome.answer =
      Sample.ofPass enabled (source.pass moment.world sampler.source).1 timestamp :=
    answer_sample_tracedFrom source enabled moment log sampler
  have hsource := source_sample_tracedFrom source enabled moment log sampler
  refine ⟨sample_untraced source enabled moment (sampler.tracedFrom log), fun hdisabled => ?_,
    fun henabled => ?_, fun hsteady => ?_, lastTimestamp_sample _ _ _ _,
    Binary64.max_eq_or _ _, Binary64.le_max_left, Binary64.le_max_right, fun reading => ?_⟩
  · subst hdisabled
    exact ⟨hsource, hanswer⟩
  · subst henabled
    obtain ⟨reads, result, last, htrace⟩ :=
      source.exists_passTrace moment.world sampler.source
    rw [htrace.pass_eq] at hanswer hsource
    rw [htrace.readings_eq] at hsource
    refine ⟨reads, result, last, htrace, hsource, ?_, ?_, ?_⟩
    · rintro readings rfl
      exact hanswer
    · rintro cause rfl
      exact hanswer
    · rintro cause rfl
      exact hanswer
  · obtain ⟨sample, hsample⟩ := exists_sample_of_steady hsteady enabled moment sampler
    rw [answer_sample] at hsample
    exact ⟨sample, hanswer.trans hsample⟩
  · exact ⟨fun hfinite hzero hhundred => Sample.percent_eq_self ⟨hfinite, hzero, hhundred⟩,
      Sample.percent_of_lt_zero, Sample.percent_of_hundred_lt, Sample.percent_of_not_finite,
      Sample.amount_of_pos, Sample.amount_of_not_pos⟩

end Sampler

end ResourceHealth
