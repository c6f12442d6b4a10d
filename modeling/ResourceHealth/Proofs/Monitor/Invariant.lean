import ResourceHealth.Proofs.Monitor.Steps

/-!
# The invariant of a monitor

However a source behaves and whatever the clock shows, a monitor keeps no more
samples than its capacity, which is at least one; all its samples are in range; and
time does not go back in its history.

Main definitions:

- `Monitor.Sound`: the invariant.

Main results:

- Theorem `Monitor.Sound.perform`: every operation keeps the invariant.
- Theorem `Monitor.le_timestamp_of_mem_taken`: no later sample is older than the sampler.
- Theorem `Monitor.sound_throughout_run`: a monitor is sound after each step of a run, and
  the samples of the run are in the order of time.
-/

namespace ResourceHealth

namespace Monitor

variable {State World : Type}

/-- What holds of a monitor at all times. -/
structure Sound (monitor : Monitor State) : Prop where
  /-- There is room for the newest sample. -/
  one_le_capacity : 1 ≤ monitor.history.capacity
  length_le_capacity : monitor.history.length ≤ monitor.history.capacity
  inRange : ∀ sample ∈ monitor.history.entries, sample.InRange
  /-- From the oldest to the newest sample time does not go back. -/
  ordered :
    monitor.history.entries.Pairwise fun earlier later => earlier.timestamp ≤ later.timestamp
  le_lastTimestamp :
    ∀ sample ∈ monitor.history.entries, sample.timestamp ≤ monitor.sampler.lastTimestamp
  lastTimestamp_ne_nan : monitor.sampler.lastTimestamp ≠ .nan

theorem sound_start (thresholds : Thresholds) (capacity : Nat) (enabled : Bool)
    (initial : State) : (start thresholds capacity enabled initial).Sound where
  one_le_capacity := Nat.le_max_right capacity 1
  length_le_capacity := Nat.zero_le _
  inRange := by simp [start]
  ordered := List.Pairwise.nil
  le_lastTimestamp := by simp [start]
  lastTimestamp_ne_nan := Binary64.ne_nan_of_isFinite Binary64.isFinite_zero

/-! ## One step -/

/-- The history after a sample, all of whose times are at most that of the sample. -/
theorem Sound.of_push {monitor : Monitor State} (hsound : monitor.Sound)
    {sampler : Sampler State} {sample : Sample} (hrange : sample.InRange)
    (htime : sample.timestamp = sampler.lastTimestamp)
    (hlater : monitor.sampler.lastTimestamp ≤ sampler.lastTimestamp) :
    Sound { monitor with sampler, history := monitor.history.push sample } := by
  have hkept : (monitor.history.push sample).entries.Sublist
      (monitor.history.entries ++ [sample]) :=
    (History.newest_suffix _ _).sublist
  have hold : ∀ kept ∈ monitor.history.entries, kept.timestamp ≤ sampler.lastTimestamp := by
    intro kept hmem
    exact Binary64.le_trans (hsound.le_lastTimestamp kept hmem) hlater
  refine
    { one_le_capacity := hsound.one_le_capacity
      length_le_capacity := History.length_push_le _ _
      inRange := ?_
      ordered := ?_
      le_lastTimestamp := ?_
      lastTimestamp_ne_nan := Binary64.ne_nan_of_le_right hlater }
  · intro kept hmem
    rcases List.mem_append.mp (hkept.subset hmem) with hmem | hmem
    · exact hsound.inRange kept hmem
    · rw [List.mem_singleton.mp hmem]
      exact hrange
  · refine List.Pairwise.sublist hkept (List.pairwise_append.mpr ⟨hsound.ordered, ?_, ?_⟩)
    · exact List.pairwise_singleton _ _
    · intro kept hmem new hnew
      rw [List.mem_singleton.mp hnew, htime]
      exact hold kept hmem
  · intro kept hmem
    rcases List.mem_append.mp (hkept.subset hmem) with hmem | hmem
    · exact hold kept hmem
    · rw [List.mem_singleton.mp hmem, htime]
      exact Binary64.le_refl (Binary64.ne_nan_of_le_right hlater)

/-- Taking a sample keeps the invariant, also when the source panics. -/
theorem Sound.sample {monitor : Monitor State} (hsound : monitor.Sound)
    (source : Source State World) (moment : Moment World) :
    (monitor.sample source moment).state.Sound := by
  have hlater := Sampler.le_lastTimestamp_sample source monitor.enabled moment
    hsound.lastTimestamp_ne_nan
  cases h : (monitor.sampler.sample source monitor.enabled moment).answer with
  | ok sample =>
    rw [sample_of_ok h]
    exact hsound.of_push (Sampler.inRange_of_sample h) (Sampler.timestamp_of_sample h) hlater
  | error cause =>
    rw [sample_of_error h]
    exact
      { one_le_capacity := hsound.one_le_capacity
        length_le_capacity := hsound.length_le_capacity
        inRange := hsound.inRange
        ordered := hsound.ordered
        le_lastTimestamp := fun kept hmem =>
          Binary64.le_trans (hsound.le_lastTimestamp kept hmem) hlater
        lastTimestamp_ne_nan := Binary64.ne_nan_of_le_right hlater }

/-- An operation that takes no sample keeps the invariant; the floor of the capacity is what
a change of the capacity needs. -/
theorem Sound.changed {monitor : Monitor State} (hsound : monitor.Sound)
    (operation : Operation) : (monitor.changed operation).Sound := by
  cases operation with
  | setCapacity capacity =>
    have hkept : (monitor.history.setCapacity capacity).entries.Sublist
        monitor.history.entries :=
      (History.newest_suffix _ _).sublist
    exact
      { one_le_capacity := Nat.le_max_right capacity 1
        length_le_capacity := History.length_setCapacity_le _ _
        inRange := fun kept hmem => hsound.inRange kept (hkept.subset hmem)
        ordered := hsound.ordered.sublist hkept
        le_lastTimestamp := fun kept hmem => hsound.le_lastTimestamp kept (hkept.subset hmem)
        lastTimestamp_ne_nan := hsound.lastTimestamp_ne_nan }
  | clear =>
    exact
      { one_le_capacity := hsound.one_le_capacity
        length_le_capacity := Nat.zero_le _
        inRange := by simp [Monitor.changed]
        ordered := List.Pairwise.nil
        le_lastTimestamp := by simp [Monitor.changed]
        lastTimestamp_ne_nan := hsound.lastTimestamp_ne_nan }
  | setEnabled enabled => exact { hsound with }
  | setThresholds thresholds => exact { hsound with }
  | _ => exact hsound

/-- Every operation keeps the invariant. -/
theorem Sound.perform {monitor : Monitor State} (hsound : monitor.Sound)
    (source : Source State World) (operation : Operation) (moment : Moment World) :
    (monitor.perform source operation moment).state.Sound := by
  cases htakes : monitor.takes operation with
  | true =>
    rw [state_perform_of_takes htakes]
    exact hsound.sample source moment
  | false =>
    rw [state_perform_of_not_takes htakes]
    exact hsound.changed operation

/-- The time of the sampler does not go back, and a sample that is taken bears it. -/
theorem le_lastTimestamp_perform {monitor : Monitor State}
    (hlast : monitor.sampler.lastTimestamp ≠ .nan) (source : Source State World)
    (operation : Operation) (moment : Moment World) :
    monitor.sampler.lastTimestamp ≤
      (monitor.perform source operation moment).state.sampler.lastTimestamp := by
  cases htakes : monitor.takes operation with
  | true =>
    rw [state_perform_of_takes htakes, sampler_sample]
    exact Sampler.le_lastTimestamp_sample source monitor.enabled moment hlast
  | false =>
    rw [state_perform_of_not_takes htakes, sampler_changed]
    exact Binary64.le_refl hlast

/-- A sample that is taken carries the sampler's last timestamp. -/
theorem timestamp_of_taken? {monitor : Monitor State} {source : Source State World}
    {operation : Operation} {moment : Moment World} {sample : Sample}
    (h : monitor.taken? source operation moment = some sample) :
    sample.timestamp =
      (monitor.perform source operation moment).state.sampler.lastTimestamp := by
  obtain ⟨htakes, hanswer⟩ := taken?_eq_some_iff.mp h
  rw [state_perform_of_takes htakes, sampler_sample]
  exact Sampler.timestamp_of_sample hanswer

/-! ## Runs -/

/-- Every run keeps the invariant. -/
theorem Sound.after {monitor : Monitor State} (hsound : monitor.Sound)
    (source : Source State World) (operations : List (Operation × Moment World)) :
    (monitor.after source operations).Sound := by
  induction operations generalizing monitor with
  | nil => exact hsound
  | cons step rest ih =>
    rw [after_cons]
    exact ih (hsound.perform source step.1 step.2)

/-- No sample of a run is older than the sampler was at its start. -/
theorem le_timestamp_of_mem_taken {monitor : Monitor State}
    (hlast : monitor.sampler.lastTimestamp ≠ .nan) (source : Source State World)
    (operations : List (Operation × Moment World)) :
    ∀ sample ∈ monitor.taken source operations,
      monitor.sampler.lastTimestamp ≤ sample.timestamp := by
  induction operations generalizing monitor with
  | nil => simp
  | cons step rest ih =>
    intro sample hmem
    have hlater := le_lastTimestamp_perform hlast source step.1 step.2
    rw [taken_cons, List.mem_append, Option.mem_toList] at hmem
    rcases hmem with hmem | hmem
    · rw [timestamp_of_taken? hmem]
      exact hlater
    · exact Binary64.le_trans hlater (ih (Binary64.ne_nan_of_le_right hlater) sample hmem)

/-- The samples of a run are in the order of time. -/
theorem pairwise_taken {monitor : Monitor State}
    (hlast : monitor.sampler.lastTimestamp ≠ .nan) (source : Source State World)
    (operations : List (Operation × Moment World)) :
    (monitor.taken source operations).Pairwise
      fun earlier later => earlier.timestamp ≤ later.timestamp := by
  induction operations generalizing monitor with
  | nil => exact List.Pairwise.nil
  | cons step rest ih =>
    have hlater := le_lastTimestamp_perform hlast source step.1 step.2
    have hnext := Binary64.ne_nan_of_le_right hlater
    rw [taken_cons, List.pairwise_append]
    refine ⟨?_, ih hnext, ?_⟩
    · cases monitor.taken? source step.1 step.2 with
      | none => exact List.Pairwise.nil
      | some sample => exact List.pairwise_singleton _ _
    · intro earlier hearlier later hmem
      rw [timestamp_of_taken? (Option.mem_toList.mp hearlier)]
      exact le_timestamp_of_mem_taken hnext source rest later hmem

/-- After each step of each run of a new monitor, whatever its capacity, its thresholds, its
source and its clock: there is room for a sample and no more are kept than there is room for,
all that is kept is in range, and the history is in the order of time and not ahead of the
sampler.  All samples of the run, however they were asked for and whatever was cleared or
switched in between, are in the order of time, and so are those that it returns. -/
theorem sound_throughout_run (source : Source State World) (thresholds : Thresholds)
    (capacity : Nat) (enabled : Bool) (initial : State)
    (operations : List (Operation × Moment World)) :
    let monitor := start thresholds capacity enabled initial
    (∀ steps, (monitor.after source (operations.take steps)).Sound) ∧
      (monitor.taken source operations).Pairwise
        (fun earlier later => earlier.timestamp ≤ later.timestamp) ∧
      ((monitor.run source operations).filterMap fun outcome =>
        returned? outcome.answer).Pairwise
        (fun earlier later => earlier.timestamp ≤ later.timestamp) := by
  intro monitor
  have hsound : monitor.Sound := sound_start thresholds capacity enabled initial
  have htaken := pairwise_taken hsound.lastTimestamp_ne_nan source operations
  refine ⟨?_, htaken, ?_⟩
  · intro steps
    exact hsound.after source (operations.take steps)
  · exact htaken.sublist (returned_sublist_taken source operations monitor)

end Monitor

end ResourceHealth
