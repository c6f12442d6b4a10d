import ResourceHealth.Proofs.Monitor.Calls
import ResourceHealth.Proofs.Monitor.Traced

/-!
# Samples in a row

Taking samples one after the other over a source that never panics: there is a sample for
each moment, the history ends with them, and each is one pass over the source unless
monitoring is disabled.

Main definitions:

- `Monitor.Series`: what a row of samples leaves.

Main results:

- Theorem `Monitor.exists_series`: with a steady source there is a sample for each moment.
- Theorem `Monitor.samples_untraced`: watching the source makes no difference to them.
- Theorem `Monitor.log_samples`: the readings of a row are those of as many passes.
-/

namespace ResourceHealth

namespace Source

variable {State World : Type}

/-- Watching a steady source does not make it panic. -/
theorem Steady.traced {source : Source State World} (h : source.Steady) :
    source.traced.Steady where
  cpu world state cause := h.cpu world state.1 cause
  memory world state cause := h.memory world state.1 cause
  disk world state cause := h.disk world state.1 cause

/-- Every pass reads the processor first. -/
theorem readings_ne_nil (source : Source State World) (world : World) (state : State) :
    source.readings world state ≠ [] := by
  unfold readings
  split
  · exact List.cons_ne_nil _ _
  · split <;> exact List.cons_ne_nil _ _

/-- The readings of one pass: in order, and at least the first. -/
def IsPass (readings : List Resource) : Prop :=
  readings ≠ [] ∧ readings <+: [.cpu, .memory, .disk]

/-- The passes of a source read the resources in their order, up to the first failure. -/
theorem isPass_readings (source : Source State World) (world : World) (state : State) :
    IsPass (source.readings world state) :=
  ⟨source.readings_ne_nil world state, source.readings_prefix world state⟩

end Source

namespace Monitor

variable {State World : Type} {source : Source State World} {monitor : Monitor State}

/-- A row of samples, and what it leaves. -/
structure Series (source : Source State World) (moments : List (Moment World))
    (monitor : Monitor State) (samples : List Sample) : Prop where
  answer : (monitor.samples source moments).answer = .ok samples
  length : samples.length = moments.length
  thresholds : (monitor.samples source moments).state.thresholds = monitor.thresholds
  /-- The history has the newest of what it had and the samples. -/
  entries : (monitor.samples source moments).state.history.entries =
    History.newest monitor.history.capacity (monitor.history.entries ++ samples)

/-- After a first sample come the others. -/
theorem samples_cons_of_ok {moment : Moment World} {sample : Sample}
    (h : (monitor.sample source moment).answer = .ok sample) (rest : List (Moment World)) :
    monitor.samples source (moment :: rest) =
      let others := (monitor.sample source moment).state.samples source rest
      { answer := others.answer.map (sample :: ·)
        state := others.state
        events := (monitor.sample source moment).events ++ others.events } := by
  rw [samples, h]

/-- With a steady source a sample is always taken. -/
theorem exists_answer_sample (hsteady : source.Steady) (moment : Moment World)
    (monitor : Monitor State) : ∃ sample, (monitor.sample source moment).answer = .ok sample := by
  rw [answer_sample]
  exact Sampler.exists_sample_of_steady hsteady monitor.enabled moment monitor.sampler

/-- With a steady source there is a sample for each moment. -/
theorem exists_series (hsteady : source.Steady) (moments : List (Moment World))
    (hsound : monitor.Sound) : ∃ samples, monitor.Series source moments samples := by
  induction moments generalizing monitor with
  | nil =>
    have hroom := History.newest_eq_self hsound.length_le_capacity
    exact ⟨[],
      { answer := rfl, length := rfl, thresholds := rfl, entries := by simp [samples, hroom] }⟩
  | cons moment rest ih =>
    obtain ⟨sample, hanswer⟩ := exists_answer_sample hsteady moment monitor
    have htaken := (answer_sample source moment monitor).symm.trans hanswer
    obtain ⟨samples, hrest⟩ := ih (hsound.sample source moment)
    refine ⟨sample :: samples, ?_, ?_, ?_, ?_⟩
    · rw [samples_cons_of_ok hanswer]
      simp only [hrest.answer]
      rfl
    · rw [List.length_cons, List.length_cons, hrest.length]
    · rw [samples_cons_of_ok hanswer]
      simp only [hrest.thresholds, thresholds_sample]
    · rw [samples_cons_of_ok hanswer]
      simp only [hrest.entries]
      rw [sample_of_ok htaken]
      simp only [History.entries_push, History.capacity_push]
      rw [History.newest_append_newest, List.append_assoc, List.singleton_append]

/-- Watching the source makes no difference to a row of samples. -/
theorem samples_untraced (source : Source State World) (moments : List (Moment World))
    (monitor : Monitor (State × List Resource)) :
    monitor.untraced.samples source moments =
      (monitor.samples source.traced moments).mapState untraced := by
  induction moments generalizing monitor with
  | nil => rfl
  | cons moment rest ih =>
    simp only [samples, sample_untraced, Outcome.mapState]
    cases (monitor.sample source.traced moment).answer with
    | error cause => rfl
    | ok sample =>
      simp only [ih]
      rfl

/-! ## The readings of a row -/

/-- A sample is one pass over the source, or none while monitoring is disabled. -/
theorem log_sample (source : Source State World) (moment : Moment World)
    (monitor : Monitor (State × List Resource)) :
    (monitor.sample source.traced moment).state.sampler.source.2 =
      monitor.sampler.source.2 ++
        if monitor.enabled then source.readings moment.world monitor.sampler.source.1 else [] :=
  log_perform source .sample moment monitor

/-- Taking a sample does not touch the switch. -/
@[simp]
theorem enabled_sample (source : Source State World) (moment : Moment World)
    (monitor : Monitor State) : (monitor.sample source moment).state.enabled = monitor.enabled :=
  enabled_perform source .sample moment monitor

/-- The readings of a row are those of one pass for each sample, or none at all while
monitoring is disabled. -/
theorem log_samples (hsteady : source.Steady) (moments : List (Moment World))
    (monitor : Monitor (State × List Resource)) :
    ∃ passes : List (List Resource),
      (monitor.samples source.traced moments).state.sampler.source.2 =
          monitor.sampler.source.2 ++ passes.flatten ∧
        (∀ readings ∈ passes, Source.IsPass readings) ∧
        passes.length = if monitor.enabled then moments.length else 0 := by
  induction moments generalizing monitor with
  | nil => exact ⟨[], by simp [samples], by simp, by simp⟩
  | cons moment rest ih =>
    obtain ⟨sample, hanswer⟩ := exists_answer_sample hsteady.traced moment monitor
    obtain ⟨passes, hlog, hpasses, hlength⟩ := ih (monitor.sample source.traced moment).state
    rw [enabled_sample] at hlength
    rw [samples_cons_of_ok hanswer]
    simp only [hlog, log_sample]
    cases henabled : monitor.enabled with
    | false => exact ⟨passes, by simp, hpasses, by simpa [henabled] using hlength⟩
    | true =>
      refine ⟨source.readings moment.world monitor.sampler.source.1 :: passes, by simp, ?_, ?_⟩
      · intro readings hmem
        rcases List.mem_cons.mp hmem with rfl | hmem
        · exact source.isPass_readings _ _
        · exact hpasses readings hmem
      · simpa [henabled] using hlength

end Monitor

end ResourceHealth
