import Mathlib
import ResourceHealth.Proofs.Monitor.Queries
import ResourceHealth.Proofs.Source.Range

/-!
# The accounting of processor time through a monitor

The ticks that a sample is measured from are kept by the processor meter, two levels below
the monitor, and they move on in every pass over the host, also in one whose sample is given
up because another reading fails.  This module says that a monitor feeds its processor meter
as if it were alone: with what the ticks came to in the passes made while monitoring was
enabled, and with nothing else.

Main definitions:

- `Monitor.passTicks`: what the ticks came to in the passes of a run.
- `Monitor.SameSampling`: monitors that read the processor in the same passes.

Main results:

- Theorem `Source.host_pass_state`: a pass over the host reads the meter, whatever else fails.
- Theorem `Monitor.meter_after`: a run leaves the meter as the updates by its passes do.
- Theorem `Monitor.SameSampling.passTicks_eq`: the other files of the hosts have no influence.
- Theorem `Monitor.cpu_of_lone_meter`: a sample has the share that the meter alone shows.
-/

namespace ResourceHealth

/-! ## Passes over the host -/

/-- A pass over the host reads the processor meter, whether or not the memory and the file
system can then be read, and keeps nothing else. -/
theorem Source.host_pass_state (host : Host) (meter : HostMeter) :
    (Source.host.pass host meter).2 =
      { meter with processor := (meter.processor.read host).2 } := by
  simp only [pass, Source.host]
  rcases meter.processor.read host with ⟨fault | cpu, next⟩
  · rfl
  rcases (Memory.read Memory.standardPath host).map Memory.reading with fault | memory
  · rfl
  rcases hdisk : ((Volume.read meter.diskPath host).map Volume.percent).mapError Fault.error
    with fault | disk <;> simp only [hdisk]

/-- Passes over the host change the processor meter only, by one reading each. -/
theorem Source.foldl_host_pass_state (hosts : List Host) (meter : HostMeter) :
    hosts.foldl (fun state host => (Source.host.pass host state).2) meter =
      { meter with
        processor :=
          hosts.foldl (fun current host => (current.read host).2) meter.processor } := by
  induction hosts generalizing meter with
  | nil => rfl
  | cons host rest ih => rw [List.foldl_cons, ih, host_pass_state, List.foldl_cons]

namespace Monitor

/-- What the ticks came to in the passes of a run. -/
def passTicks (operations : List (Operation × Moment Host)) (monitor : Monitor HostMeter) :
    List (Except Fault Jiffies) :=
  (monitor.passes Source.host operations).map
    (ProcessorMeter.ticks monitor.sampler.source.processor.path)

/-- A run leaves the processor meter as the updates by the ticks of its passes do. -/
theorem meter_after (operations : List (Operation × Moment Host))
    (monitor : Monitor HostMeter) :
    (monitor.after Source.host operations).sampler.source =
      { monitor.sampler.source with
        processor :=
          monitor.sampler.source.processor.updateAll (monitor.passTicks operations) } := by
  rw [source_after, Source.foldl_host_pass_state, ProcessorMeter.foldl_read]
  rfl

/-! ## Other readings than the ticks -/

/-- No operation changes the file that the processor's ticks are read from. -/
theorem path_perform (step : Operation × Moment Host) (monitor : Monitor HostMeter) :
    (monitor.perform Source.host step.1 step.2).state.sampler.source.processor.path =
      monitor.sampler.source.processor.path := by
  have hafter := meter_after [step] monitor
  rw [after_cons, after_nil] at hafter
  rw [hafter]
  exact ProcessorMeter.path_updateAll _ _

theorem passTicks_cons (step : Operation × Moment Host) (rest : List (Operation × Moment Host))
    (monitor : Monitor HostMeter) :
    monitor.passTicks (step :: rest) =
      (if monitor.reads step.1 then
        [ProcessorMeter.ticks monitor.sampler.source.processor.path step.2.world] else []) ++
        (monitor.perform Source.host step.1 step.2).state.passTicks rest := by
  rw [passTicks, passTicks, passes, List.map_append, path_perform]
  cases monitor.reads step.1 <;> rfl

/-- Monitors of hosts that read the processor in the same passes from now on. -/
structure SameSampling (monitor other : Monitor HostMeter) : Prop where
  enabled : monitor.enabled = other.enabled
  empty : monitor.history.entries = [] ↔ other.history.entries = []
  source : monitor.sampler.source = other.sampler.source

/-- The same operation, at moments at which the ticks come to the same. -/
def SameTicks (path : Path) (step other : Operation × Moment Host) : Prop :=
  step.1 = other.1 ∧
    ProcessorMeter.ticks path step.2.world = ProcessorMeter.ticks path other.2.world

/-- No operation of a run panics. -/
def RunsWithoutPanic {State World : Type} (source : Source State World)
    (operations : List (Operation × Moment World)) (monitor : Monitor State) : Prop :=
  ∀ outcome ∈ monitor.run source operations, ∃ answer, outcome.answer = .ok answer

namespace SameSampling

variable {monitor other : Monitor HostMeter}

/-- Monitors with the same sampling take a sample in the same operations. -/
theorem takes_eq (h : monitor.SameSampling other) (operation : Operation) :
    monitor.takes operation = other.takes operation := by
  rw [Bool.eq_iff_iff, takes_iff, takes_iff, h.empty]

theorem reads_eq (h : monitor.SameSampling other) (operation : Operation) :
    monitor.reads operation = other.reads operation := by
  rw [reads, reads, h.takes_eq, h.enabled]

/-- The monitors keep the same sampling, even if the memory or the file system can be read for
the one and not for the other: either way there is a sample afterwards. -/
theorem perform (h : monitor.SameSampling other) (hmonitor : monitor.Sound) (hother : other.Sound)
    {step again : Operation × Moment Host}
    (hticks : SameTicks monitor.sampler.source.processor.path step again)
    (hanswer : ∃ answer, (monitor.perform Source.host step.1 step.2).answer = .ok answer)
    (hagain : ∃ answer, (other.perform Source.host again.1 again.2).answer = .ok answer) :
    (monitor.perform Source.host step.1 step.2).state.SameSampling
      (other.perform Source.host again.1 again.2).state := by
  obtain ⟨operation, moment⟩ := step
  obtain ⟨_, moment'⟩ := again
  obtain ⟨rfl, hticks⟩ := hticks
  refine ⟨?_, ?_, ?_⟩
  · rw [enabled_perform, enabled_perform]
    cases operation <;> first | exact h.enabled | rfl
  · cases hclears : operation.clears with
    | true =>
      have hoperation : operation = .clear := by
        cases operation <;> simp_all [Operation.clears]
      subst hoperation
      simp [Monitor.perform, clear, Outcome.map]
    | false =>
      rw [entries_perform_eq_nil_iff hmonitor hclears, entries_perform_eq_nil_iff hother hclears,
        h.empty, taken?_eq_none_iff_of_answer hanswer, taken?_eq_none_iff_of_answer hagain,
        h.takes_eq]
  · rw [source_perform, source_perform, h.reads_eq, ← h.source, Source.host_pass_state,
      Source.host_pass_state, ProcessorMeter.read_eq_updateWith,
      ProcessorMeter.read_eq_updateWith, hticks]

/-- Runs of which neither panics read the same ticks if these come to the same, whatever else
the hosts tell. -/
theorem passTicks_eq {operations others : List (Operation × Moment Host)}
    (h : monitor.SameSampling other) (hmonitor : monitor.Sound) (hother : other.Sound)
    (hticks : List.Forall₂ (SameTicks monitor.sampler.source.processor.path) operations others)
    (hwithoutPanic : monitor.RunsWithoutPanic Source.host operations)
    (hothers : other.RunsWithoutPanic Source.host others) :
    monitor.passTicks operations = other.passTicks others := by
  induction operations generalizing monitor other others with
  | nil =>
    cases hticks
    rfl
  | cons step rest ih =>
    obtain ⟨again, more, hstep, hrest, rfl⟩ := List.forall₂_cons_left_iff.mp hticks
    have hanswer := hwithoutPanic _ List.mem_cons_self
    have hagain := hothers _ List.mem_cons_self
    have hrestTicks := ih (h.perform hmonitor hother hstep hanswer hagain)
      (hmonitor.perform Source.host step.1 step.2) (hother.perform Source.host again.1 again.2)
      (by rwa [path_perform])
      (fun outcome hmem => hwithoutPanic outcome (List.mem_cons_of_mem _ hmem))
      (fun outcome hmem => hothers outcome (List.mem_cons_of_mem _ hmem))
    obtain ⟨hoperation, hworld⟩ := hstep
    rw [passTicks_cons, passTicks_cons, hrestTicks, ← h.source, hworld, hoperation,
      h.reads_eq again.1]

end SameSampling

/-! ## Samples of a run -/

/-- The share that the processor meter shows is in range after any run. -/
theorem sound_meter_after {monitor : Monitor HostMeter} (h : monitor.sampler.source.Sound)
    (operations : List (Operation × Moment Host)) :
    (monitor.after Source.host operations).sampler.source.Sound := by
  rw [meter_after]
  refine ProcessorMeter.isShare_updateAll h fun now hmem => ?_
  obtain ⟨host, -, hticks⟩ := List.mem_map.mp hmem
  exact ProcessorMeter.inRange_of_ticks hticks

/-- The sample of a pass that succeeds has the share that the processor meter gives. -/
theorem cpu_of_pass {monitor : Monitor HostMeter} (hsound : monitor.sampler.source.Sound)
    {operation : Operation} {moment : Moment Host} (hreads : monitor.reads operation = true)
    {readings : Readings}
    (hpass : (Source.host.pass moment.world monitor.sampler.source).1 = .ok readings) :
    ∃ sample, monitor.taken? Source.host operation moment = some sample ∧
      (monitor.sampler.source.processor.read moment.world).1 = .ok sample.cpu := by
  obtain ⟨htakes, henabled⟩ := Bool.and_eq_true_iff.mp hreads
  refine ⟨Sample.ofReadings readings (monitor.sampler.nextTimestamp moment.clock), ?_, ?_⟩
  · rw [taken?_eq_some_iff, Sampler.answer_sample, hpass, henabled]
    exact ⟨htakes, rfl⟩
  · rw [Source.ofReadings_host hsound hpass]
    exact (Source.host_pass_eq_ok hpass).1

/-- After any run of a monitor of the host: its processor meter is as if it had been alone and
had been fed what the ticks came to in the passes so far, and the sample of a next pass that
succeeds has the share that this meter gives for the ticks of the pass, measured from the last
ticks that could be read in any pass.  Ticks that could not be read leave no trace in the
meter; nothing is fed to it while monitoring is disabled; and the memory and the file system
have no influence, since a run in which they can be read at other moments, if neither panics,
feeds it the same. -/
theorem cpu_of_lone_meter (thresholds : Thresholds) (capacity : Nat) (enabled : Bool)
    (diskPath : Path) (operations : List (Operation × Moment Host)) :
    let begun := start thresholds capacity enabled (HostMeter.start diskPath)
    let monitor := begun.after Source.host operations
    let outcomes := begun.passTicks operations
    let lone := ProcessorMeter.unread.updateAll outcomes
    monitor.sampler.source = ⟨lone, diskPath⟩ ∧
      (∀ operation moment readings, monitor.reads operation = true →
        (Source.host.pass moment.world monitor.sampler.source).1 = .ok readings →
        ∃ sample now, monitor.taken? Source.host operation moment = some sample ∧
          ProcessorMeter.ticks ProcessorMeter.standardPath moment.world = .ok now ∧
          (lone.read moment.world).1 = .ok sample.cpu ∧
          sample.cpu =
            if lone.last.total < now.total then
              ProcessorMeter.busyPercent (now.idle - lone.last.idle)
                (now.total - lone.last.total)
            else lone.lastPercent) ∧
      lone = (Jiffies.successes outcomes).foldl ProcessorMeter.update ProcessorMeter.unread ∧
      lone.last = (Jiffies.successes outcomes).getLast?.getD Jiffies.zero ∧
      (∀ stretch, monitor.enabled = false →
        (∀ step ∈ stretch, step.1 ≠ .setEnabled true) →
        begun.passTicks (operations ++ stretch) = outcomes) ∧
      ∀ others,
        List.Forall₂ (SameTicks ProcessorMeter.standardPath) operations others →
        begun.RunsWithoutPanic Source.host operations → begun.RunsWithoutPanic Source.host others →
        begun.passTicks others = outcomes := by
  intro begun monitor outcomes lone
  have hmeter : monitor.sampler.source = ⟨lone, diskPath⟩ := meter_after operations begun
  have hpath : lone.path = ProcessorMeter.standardPath := ProcessorMeter.path_updateAll outcomes _
  have hbegun : begun.Sound := sound_start thresholds capacity enabled _
  refine ⟨hmeter, fun operation moment readings hreads hpass => ?_,
    ProcessorMeter.updateAll_eq_foldl_update outcomes _, ProcessorMeter.last_fed outcomes _,
    fun stretch hdisabled hstays => ?_, fun others hticks hwithoutPanic hothers => ?_⟩
  · have hsound : monitor.sampler.source.Sound :=
      sound_meter_after (HostMeter.sound_start diskPath) operations
    obtain ⟨sample, htaken, hread⟩ := cpu_of_pass hsound hreads hpass
    rw [hmeter] at hread
    have hshown := hread
    rw [ProcessorMeter.read_eq_updateWith, hpath] at hshown
    cases hnow : ProcessorMeter.ticks ProcessorMeter.standardPath moment.world with
    | error fault =>
      rw [hnow] at hshown
      cases hshown
    | ok now =>
      rw [hnow] at hshown
      refine ⟨sample, now, htaken, rfl, hread, ?_⟩
      rw [← Except.ok.inj hshown]
      simp only [ProcessorMeter.update, Nat.sub_pos_iff_lt]
  · have hnone : monitor.passes Source.host stretch = [] :=
      passes_eq_nil_of_disabled Source.host hdisabled hstays
    rw [passTicks, passes_append, hnone, List.append_nil]
    rfl
  · have hsameSampling : begun.SameSampling begun := ⟨rfl, Iff.rfl, rfl⟩
    exact (hsameSampling.passTicks_eq hbegun hbegun hticks hwithoutPanic hothers).symm

end Monitor

end ResourceHealth
