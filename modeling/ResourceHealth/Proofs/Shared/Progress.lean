import ResourceHealth.Proofs.Monitor.Steps
import ResourceHealth.Shared.Progress

/-!
# Steps and whole operations

As long as nobody else touches the monitor, the steps of an operation add up to the
operation.  The invariant says, for each place in an operation, how the monitor then
stands to the monitor at the start.

Main definitions:

- `Progress.Reached`: what an operation has come to, place by place.
- `Progress.storedBy`: what an operation has put into the history.
- `Progress.rank`: how many steps lie behind.

Main results:

- Theorem `Progress.begun_cases`: what the first step can be.
- Theorem `Progress.Reached.advance`: a step goes from place to place, or panics as the
  whole operation does.
- Theorem `Progress.Reached.storedBy_advance`: what a step puts into the history.
- Theorem `Progress.rank_advance`: a step goes forward.
-/

namespace ResourceHealth

/-! ## One pass, seen from the sampler -/

namespace Sampler

variable {State World : Type}

/-- A sampler that is switched off reads nothing and stamps a sample of zeros. -/
theorem sample_of_disabled (source : Source State World) (moment : Moment World)
    (sampler : Sampler State) :
    sampler.sample source false moment =
      { answer := .ok (Sample.zeroed (sampler.nextTimestamp moment.clock))
        state := { sampler with lastTimestamp := sampler.nextTimestamp moment.clock } } :=
  rfl

/-- The sampler after a pass that comes to an answer, an error or a panic. -/
theorem sample_of_pass {source : Source State World} {moment : Moment World}
    {sampler : Sampler State} {result : Except Fault Readings} {state : State}
    (h : source.pass moment.world sampler.source = (result, state)) :
    sampler.sample source true moment =
      { answer := Sample.ofPass true result (sampler.nextTimestamp moment.clock)
        state := ⟨state, sampler.nextTimestamp moment.clock⟩
        events :=
          match result with
          | .ok readings =>
            [.sampled (Sample.ofReadings readings (sampler.nextTimestamp moment.clock))]
          | .error (.error cause) => [.failed cause]
          | .error (.panic _) => [] } := by
  unfold sample Sample.ofPass
  rcases result with (error | panic) | readings <;> simp [h]

end Sampler

/-- A monitor in the middle of a pass: the time of the sample is set and the source has been
read. -/
def Monitor.midPass {State World : Type} (before : Monitor State) (moment : Moment World)
    (state : State) : Monitor State :=
  { before with sampler := ⟨state, before.sampler.nextTimestamp moment.clock⟩ }

namespace Progress

variable {State World : Type}

/-- What an operation has come to that began at a moment with a monitor: its place, the
monitor now, and what the log was told. -/
inductive Reached (source : Source State World) (operation : Operation)
    (moment : Moment World) (before : Monitor State) :
    Progress World → Monitor State → List Event → Prop where
  | begun : Reached source operation moment before (.begun moment) before []
  | sampling (htakes : before.takes operation = true) :
      Reached source operation moment before (.sampling moment) before []
  | switched (htakes : before.takes operation = true) :
      Reached source operation moment before (.switched moment before.enabled) before []
  | timed (htakes : before.takes operation = true) (henabled : before.enabled = true) :
      Reached source operation moment before
        (.timed moment.world (before.sampler.nextTimestamp moment.clock))
        (before.midPass moment before.sampler.source) []
  | readCpu (htakes : before.takes operation = true) (henabled : before.enabled = true)
      {cpu : Binary64} {state : State}
      (hcpu : source.cpu moment.world before.sampler.source = (.ok cpu, state)) :
      Reached source operation moment before
        (.readCpu moment.world (before.sampler.nextTimestamp moment.clock) cpu)
        (before.midPass moment state) []
  | readMemory (htakes : before.takes operation = true) (henabled : before.enabled = true)
      {cpu : Binary64} {memory : MemoryReading} {middle state : State}
      (hcpu : source.cpu moment.world before.sampler.source = (.ok cpu, middle))
      (hmemory : source.memory moment.world middle = (.ok memory, state)) :
      Reached source operation moment before
        (.readMemory moment.world (before.sampler.nextTimestamp moment.clock) cpu memory)
        (before.midPass moment state) []
  | measured (htakes : before.takes operation = true) (henabled : before.enabled = true)
      {readings : Readings} {state : State}
      (hpass : source.pass moment.world before.sampler.source = (.ok readings, state)) :
      Reached source operation moment before
        (.measured readings (before.sampler.nextTimestamp moment.clock))
        (before.midPass moment state) []
  | taken (htakes : before.takes operation = true) {sample : Sample}
      {sampler : Sampler State} {log : List Event}
      (hsample : before.sampler.sample source before.enabled moment =
        { answer := .ok sample, state := sampler, events := log }) :
      Reached source operation moment before (.taken sample) { before with sampler } log
  | kept (htakes : before.takes operation = true) {latest : Sample} {now : Monitor State}
      {log : List Event}
      (hsample : before.sample source moment =
        { answer := .ok latest, state := now, events := log }) :
      Reached source operation moment before (.kept latest) now log
  | found (hasks : operation = .health ∨ operation = .available) {latest : Sample}
      (hlatest : before.history.latest? = some latest) :
      Reached source operation moment before (.kept latest) before []
  | ended {answer : Answer} {now : Monitor State} {log : List Event}
      (hperform : before.perform source operation moment =
        { answer := .ok answer, state := now, events := log }) :
      Reached source operation moment before (.ended answer) now log

/-! ## What a reading leads to -/

variable {source : Source State World} {operation : Operation} {moment : Moment World}
  {before : Monitor State}

/-- An error in a pass leads to a sample of zeros. -/
theorem reached_of_error (htakes : before.takes operation = true)
    (henabled : before.enabled = true) {cause : MonitorError} {state : State}
    (hpass : source.pass moment.world before.sampler.source = (.error (.error cause), state)) :
    Reached source operation moment before
      (.taken (Sample.zeroed (before.sampler.nextTimestamp moment.clock)))
      (before.midPass moment state) [.failed cause] := by
  refine .taken htakes ?_
  rw [henabled, Sampler.sample_of_pass hpass]
  rfl

/-- A panic in a pass is one of the operation. -/
theorem perform_of_pass_panic (htakes : before.takes operation = true)
    (henabled : before.enabled = true) {cause : Panic} {state : State}
    (hpass : source.pass moment.world before.sampler.source = (.error (.panic cause), state)) :
    before.perform source operation moment =
      { answer := .error cause, state := before.midPass moment state } := by
  have hsample := Sampler.sample_of_pass hpass
  rw [← henabled] at hsample
  have hanswer : (before.sampler.sample source before.enabled moment).answer =
      .error cause := by
    rw [hsample, henabled]
    rfl
  rw [Monitor.perform_of_takes htakes, Monitor.sample_of_error hanswer, hsample]
  rfl

/-! ## The first step -/

/-- The first step finds that a sample is needed, or finds the newest sample, or is all there
is to the operation. -/
theorem begun_cases (source : Source State World) (operation : Operation)
    (moment : Moment World) (monitor : Monitor State) :
    (monitor.takes operation = true ∧
      (begun moment).advance source operation monitor =
        { answer := .ok (sampling moment), state := monitor }) ∨
      (∃ latest, (operation = .health ∨ operation = .available) ∧
        monitor.history.latest? = some latest ∧
        (begun moment).advance source operation monitor =
          { answer := .ok (kept latest), state := monitor }) ∨
      ∃ answer now log, monitor.takes operation = false ∧
        monitor.perform source operation moment =
          { answer := .ok answer, state := now, events := log } ∧
        (begun moment).advance source operation monitor =
          { answer := .ok (ended answer), state := now, events := log } := by
  cases operation with
  | sample => exact Or.inl ⟨rfl, rfl⟩
  | health =>
    cases hlatest : monitor.history.latest? with
    | none =>
      have htakes := Monitor.takes_of_latest?_eq_none (Or.inl rfl) hlatest
      exact Or.inl ⟨htakes, by simp only [advance, hlatest]⟩
    | some latest =>
      exact Or.inr (Or.inl ⟨latest, Or.inl rfl, rfl, by simp only [advance, hlatest]⟩)
  | available =>
    cases hlatest : monitor.history.latest? with
    | none =>
      have htakes := Monitor.takes_of_latest?_eq_none (Or.inr rfl) hlatest
      exact Or.inl ⟨htakes, by simp only [advance, hlatest]⟩
    | some latest =>
      exact Or.inr (Or.inl ⟨latest, Or.inr rfl, rfl, by simp only [advance, hlatest]⟩)
  | _ => exact Or.inr (Or.inr ⟨_, _, _, rfl, rfl, rfl⟩)

/-! ## One step -/

/-- What a step has to come to: the next place, or the panic of the whole operation. -/
def AdvanceSound (source : Source State World) (operation : Operation) (moment : Moment World)
    (before : Monitor State) (log : List Event)
    (outcome : Outcome (Monitor State) (Progress World)) : Prop :=
  match outcome.answer with
  | .ok next =>
    Reached source operation moment before next outcome.state (log ++ outcome.events)
  | .error cause =>
    before.perform source operation moment =
      { answer := .error cause, state := outcome.state, events := log ++ outcome.events }

/-- A reading leads on if its success does, and if its failure is that of the pass. -/
theorem advanceSound_reading {Value : Type} (htakes : before.takes operation = true)
    (henabled : before.enabled = true) {read : State → Except Fault Value × State}
    {next : Value → Progress World} {state : State}
    (hok : ∀ value after, read state = (.ok value, after) →
      Reached source operation moment before (next value) (before.midPass moment after) [])
    (herror : ∀ fault after, read state = (.error fault, after) →
      source.pass moment.world before.sampler.source = (.error fault, after)) :
    AdvanceSound source operation moment before []
      (reading read (before.sampler.nextTimestamp moment.clock) next
        (before.midPass moment state)) := by
  unfold AdvanceSound reading Monitor.midPass
  rcases hread : read state with ⟨(error | panic) | value, after⟩
  · simp only
    exact reached_of_error htakes henabled (herror _ _ hread)
  · simp only
    exact perform_of_pass_panic htakes henabled (herror _ _ hread)
  · simp only
    exact hok value after hread

/-- Each step leads from one place to the next. -/
theorem Reached.advance {progress : Progress World} {now : Monitor State} {log : List Event}
    (h : Reached source operation moment before progress now log) :
    AdvanceSound source operation moment before log (progress.advance source operation now) := by
  cases h with
  | begun =>
    rcases begun_cases source operation moment before with
      ⟨htakes, hstep⟩ | ⟨latest, hasks, hlatest, hstep⟩ | ⟨answer, now, log, -, hperform, hstep⟩
    · rw [hstep]
      exact .sampling htakes
    · rw [hstep]
      exact .found hasks hlatest
    · rw [hstep]
      exact .ended hperform
  | sampling htakes => exact .switched htakes
  | switched htakes =>
    cases henabled : before.enabled with
    | true => exact .timed htakes henabled
    | false =>
      refine .taken htakes ?_
      rw [henabled]
      exact Sampler.sample_of_disabled source moment before.sampler
  | timed htakes henabled =>
    refine advanceSound_reading htakes henabled (fun cpu after hcpu => ?_)
      fun fault after hcpu => ?_
    · exact .readCpu htakes henabled hcpu
    · simp [Source.pass, hcpu]
  | readCpu htakes henabled hcpu =>
    refine advanceSound_reading htakes henabled (fun memory after hmemory => ?_)
      fun fault after hmemory => ?_
    · exact .readMemory htakes henabled hcpu hmemory
    · simp [Source.pass, hcpu, hmemory]
  | readMemory htakes henabled hcpu hmemory =>
    refine advanceSound_reading htakes henabled (fun disk after hdisk => ?_)
      fun fault after hdisk => ?_
    · refine .measured htakes henabled ?_
      simp [Source.pass, hcpu, hmemory, hdisk]
    · simp [Source.pass, hcpu, hmemory, hdisk]
  | measured htakes henabled hpass =>
    refine .taken htakes ?_
    rw [henabled, Sampler.sample_of_pass hpass]
    rfl
  | @taken htakes sample sampler log hsample =>
    have hanswer : (before.sampler.sample source before.enabled moment).answer =
        .ok sample := by rw [hsample]
    have hkept := Monitor.sample_of_ok hanswer
    rw [hsample] at hkept
    simp only [AdvanceSound, Progress.advance, List.append_nil]
    exact .kept htakes hkept
  | @kept htakes latest now log hsample =>
    have hthresholds := Monitor.thresholds_sample source moment before
    rw [hsample] at hthresholds
    simp only [AdvanceSound, Progress.advance, List.append_nil]
    refine .ended ?_
    rw [Monitor.perform_of_takes htakes, hsample, ← hthresholds]
    rfl
  | found hasks hlatest =>
    exact .ended (Monitor.perform_of_latest hasks hlatest)
  | ended hperform =>
    simp only [AdvanceSound, Progress.advance, List.append_nil]
    exact .ended hperform

/-- A reading that does not panic leads on, or to a sample of zeros. -/
theorem eq_of_reading {Value : Type} {read : State → Except Fault Value × State}
    {timestamp : Binary64} {following : Value → Progress World} {now : Monitor State}
    {next : Progress World} (h : (reading read timestamp following now).answer = .ok next) :
    (∃ value, next = following value) ∨ next = .taken (Sample.zeroed timestamp) := by
  unfold reading at h
  rcases hread : read now.sampler.source with ⟨(error | panic) | value, after⟩ <;>
    simp only [hread] at h <;> cases h
  · exact Or.inr rfl
  · exact Or.inl ⟨value, rfl⟩

/-! ## What the history gets -/

/-- The sample that the next step puts into the history. -/
def addedSample? : Progress World → Option Sample
  | taken sample => some sample
  | _ => none

/-- Whether an operation is past the step that puts its sample into the history. -/
def stored : Progress World → Bool
  | kept _ | ended _ => true
  | _ => false

/-- What an operation has put into the history. -/
def storedBy (source : Source State World) (operation : Operation) (moment : Moment World)
    (before : Monitor State) (progress : Progress World) : List Sample :=
  if progress.stored then (before.taken? source operation moment).toList else []

/-- A step puts into the history what it is said to. -/
theorem Reached.storedBy_advance {progress next : Progress World} {now : Monitor State}
    {log : List Event} (h : Reached source operation moment before progress now log)
    (hnext : (progress.advance source operation now).answer = .ok next) :
    next.storedBy source operation moment before =
      progress.storedBy source operation moment before ++ progress.addedSample?.toList := by
  have hnone : before.takes operation = false →
      (before.taken? source operation moment).toList = [] := fun htakes => by
    rw [Monitor.taken?_of_not_takes htakes]
    rfl
  cases h with
  | begun =>
    rcases begun_cases source operation moment before with
      ⟨-, hstep⟩ | ⟨latest, hasks, hlatest, hstep⟩ | ⟨answer, now, log, htakes, -, hstep⟩
    · rw [hstep] at hnext
      cases hnext
      rfl
    · rw [hstep] at hnext
      cases hnext
      exact hnone (Monitor.not_takes_of_latest hasks hlatest)
    · rw [hstep] at hnext
      cases hnext
      exact hnone htakes
  | sampling htakes =>
    cases hnext
    rfl
  | switched htakes =>
    simp only [Progress.advance, Except.ok.injEq] at hnext
    subst hnext
    cases before.enabled <;> rfl
  | timed htakes henabled =>
    rcases eq_of_reading hnext with ⟨cpu, rfl⟩ | rfl <;> rfl
  | readCpu htakes henabled hcpu =>
    rcases eq_of_reading hnext with ⟨memory, rfl⟩ | rfl <;> rfl
  | readMemory htakes henabled hcpu hmemory =>
    rcases eq_of_reading hnext with ⟨disk, rfl⟩ | rfl <;> rfl
  | measured htakes henabled hpass =>
    cases hnext
    rfl
  | @taken htakes sample sampler log hsample =>
    cases hnext
    have htaken : before.taken? source operation moment = some sample :=
      Monitor.taken?_eq_some_iff.mpr ⟨htakes, by rw [hsample]⟩
    rw [storedBy, htaken]
    rfl
  | kept htakes hsample =>
    cases hnext
    exact (List.append_nil _).symm
  | found hasks hlatest =>
    cases hnext
    exact (List.append_nil _).symm
  | ended hperform =>
    cases hnext
    exact (List.append_nil _).symm

/-- A panic comes before anything is put into the history. -/
theorem stored_of_panic {progress : Progress World} {now : Monitor State} {cause : Panic}
    (h : (progress.advance source operation now).answer = .error cause) :
    progress.stored = false ∧ progress.addedSample? = none := by
  cases progress with
  | taken sample => cases h
  | kept latest => cases h
  | ended answer => cases h
  | _ => exact ⟨rfl, rfl⟩

/-! ## How far it is -/

/-- How many steps lie behind at the most. -/
def rank : Progress World → Nat
  | begun _ => 0
  | sampling _ => 1
  | switched _ _ => 2
  | timed _ _ => 3
  | readCpu _ _ _ => 4
  | readMemory _ _ _ _ => 5
  | measured _ _ => 6
  | taken _ => 7
  | kept _ => 8
  | ended _ => 9

/-- No more than nine steps of an operation lie behind. -/
theorem rank_le (progress : Progress World) : progress.rank ≤ 9 := by
  cases progress <;> simp [rank]

/-- Each step goes forward, until the answer is known. -/
theorem rank_advance {progress next : Progress World} {now : Monitor State}
    (hended : ∀ answer, progress ≠ .ended answer)
    (hnext : (progress.advance source operation now).answer = .ok next) :
    progress.rank < next.rank := by
  cases progress with
  | begun moment =>
    rcases begun_cases source operation moment now with
      ⟨-, hstep⟩ | ⟨latest, -, -, hstep⟩ | ⟨answer, after, log, -, -, hstep⟩ <;>
      rw [hstep] at hnext <;> cases hnext <;> simp [rank]
  | switched moment enabled =>
    simp only [Progress.advance, Except.ok.injEq] at hnext
    subst hnext
    cases enabled <;> simp [rank]
  | timed world timestamp =>
    rcases eq_of_reading hnext with ⟨cpu, rfl⟩ | rfl <;> simp [rank]
  | readCpu world timestamp cpu =>
    rcases eq_of_reading hnext with ⟨memory, rfl⟩ | rfl <;> simp [rank]
  | readMemory world timestamp cpu memory =>
    rcases eq_of_reading hnext with ⟨disk, rfl⟩ | rfl <;> simp [rank]
  | ended answer => exact absurd rfl (hended answer)
  | _ =>
    cases hnext
    simp [rank]

end Progress

end ResourceHealth
