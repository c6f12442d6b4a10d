import Mathlib
import ResourceHealth.Proofs.Sampler.PassTrace

/-!
# The log of a run

A sample of zeros looks the same whether monitoring was disabled, a reading failed or the host
was idle; only the log tells these apart.  Each operation adds its own lines to the log, so that
the log of a run is told operation by operation, however the samples were asked for and
whether or not they are still kept.

Main definitions:

- `Line`: a line of the log, with the texts of the four kinds of lines.
- `Monitor.runEvents`: the events of a run.
- `Monitor.OperationLog`, `Monitor.RunLog`: what an operation and a run log, as relations that do
  not follow the program.
- `Monitor.failedSamples`: the samples of a run that are zeros because a reading failed.

Main results:

- Theorem `Monitor.operationLog_iff`: the log of an operation.
- Theorem `Monitor.runLog_iff`: the log of a run.
- Theorem `Monitor.isChain_switches`: the lines about the switch alternate.
- Theorem `Monitor.log_tells_run`: the log of any run of a new monitor.
-/

namespace ResourceHealth

/-! ## Lines -/

/-- A line of the log: how much an event matters, and what is said of it. -/
abbrev Line := Severity × String

namespace Line

/-- The line of a sample with readings. -/
def sampled (sample : Sample) : Line :=
  (.debug, "sampled: " ++ sample.summary)

/-- The line of a sample without readings since one of them failed. -/
def failed (cause : MonitorError) : Line :=
  (.warn, "resource collection failed, reporting zeros: " ++ cause.message)

/-- The line of a change of the switch. -/
def switched (enabled : Bool) : Line :=
  (.info, if enabled then "resource monitoring enabled" else "resource monitoring disabled")

/-- The line of a capacity that was set. -/
def resized (capacity : Nat) : Line :=
  (.info, "history capacity set to " ++ toString capacity)

/-- Whether a line is about a change of the switch. -/
def isSwitch (line : Line) : Bool :=
  line = switched true || line = switched false

@[simp]
theorem isSwitch_sampled (sample : Sample) : (sampled sample).isSwitch = false := by
  simp [isSwitch, sampled, switched]

@[simp]
theorem isSwitch_failed (cause : MonitorError) : (failed cause).isSwitch = false := by
  simp [isSwitch, failed, switched]

@[simp]
theorem isSwitch_switched (enabled : Bool) : (switched enabled).isSwitch = true := by
  cases enabled <;> simp [isSwitch]

@[simp]
theorem isSwitch_resized (capacity : Nat) : (resized capacity).isSwitch = false := by
  have hfirst : ∀ enabled, resized capacity ≠ switched enabled := by
    intro enabled heq
    have hhead := congrArg (·.2.toList.head?) heq
    cases enabled <;> simp [resized, switched] at hhead
  simp [isSwitch, hfirst]

end Line

namespace Event

/-- The line of an event. -/
def line (event : Event) : Line :=
  (event.severity, event.message)

@[simp]
theorem line_sampled (sample : Sample) : (sampled sample).line = .sampled sample :=
  rfl

@[simp]
theorem line_failed (cause : MonitorError) : (failed cause).line = .failed cause :=
  rfl

@[simp]
theorem line_switched (enabled : Bool) : (switched enabled).line = .switched enabled := by
  cases enabled <;> rfl

@[simp]
theorem line_resized (capacity : Nat) : (resized capacity).line = .resized capacity :=
  rfl

/-- The events of one sample: none while sampling is disabled. -/
def ofPass (enabled : Bool) (result : Except Fault Readings) (timestamp : Binary64) :
    List Event :=
  if enabled then
    match result with
    | .ok readings => [sampled (Sample.ofReadings readings timestamp)]
    | .error (.error cause) => [failed cause]
    | .error (.panic _) => []
  else []

end Event

/-- A sampler's events are those of the pass over its source. -/
theorem Sampler.events_sample {State World : Type} (source : Source State World)
    (enabled : Bool) (moment : Moment World) (sampler : Sampler State) :
    (sampler.sample source enabled moment).events =
      Event.ofPass enabled (source.pass moment.world sampler.source).1
        (sampler.nextTimestamp moment.clock) := by
  unfold sample Event.ofPass
  cases enabled with
  | false => rfl
  | true =>
    rcases source.pass moment.world sampler.source with ⟨(error | panic) | readings, state⟩ <;>
      rfl

/-- Whether a pass ends with an error, so that a sample is made without readings. -/
def Source.passFails {State World : Type} (source : Source State World) (world : World)
    (state : State) : Bool :=
  match (source.pass world state).1 with
  | .error (.error _) => true
  | _ => false

/-- A pass fails exactly where it ends in an error that is no panic. -/
theorem Source.passFails_iff {State World : Type} {source : Source State World} {world : World}
    {state : State} :
    source.passFails world state = true ↔
      ∃ cause, (source.pass world state).1 = .error (.error cause) := by
  unfold passFails
  rcases (source.pass world state).1 with (cause | cause) | readings <;> simp

namespace Monitor

variable {State World : Type} {source : Source State World} {operation : Operation}
  {moment : Moment World} {monitor : Monitor State}

/-! ## The log of an operation -/

/-- The lines that an operation adds to the log. -/
inductive OperationLog (source : Source State World) (operation : Operation) (moment : Moment World)
    (monitor : Monitor State) : List Line → Prop
  /-- A sample of which all readings succeed is logged with its figures. -/
  | measured {reads : List Resource} {readings : Readings} {last : State} {sample : Sample}
      (henabled : monitor.enabled = true)
      (htaken : monitor.taken? source operation moment = some sample)
      (htrace : source.PassTrace moment.world monitor.sampler.source reads (.ok readings) last) :
      OperationLog source operation moment monitor [.sampled sample]
  /-- For a sample without readings the error of the first that fails is logged. -/
  | readingFailed {reads : List Resource} {cause : MonitorError} {last : State} {sample : Sample}
      (henabled : monitor.enabled = true)
      (htaken : monitor.taken? source operation moment = some sample)
      (htrace : source.PassTrace moment.world monitor.sampler.source reads
        (.error (.error cause)) last) :
      OperationLog source operation moment monitor [.failed cause]
  /-- Nothing is logged for a sample while monitoring is disabled. -/
  | unread {sample : Sample} (hdisabled : monitor.enabled = false)
      (htaken : monitor.taken? source operation moment = some sample) :
      OperationLog source operation moment monitor []
  /-- Nothing is logged when the source panics. -/
  | broken {cause : Panic}
      (hanswer : (monitor.perform source operation moment).answer = .error cause) :
      OperationLog source operation moment monitor []
  /-- The switch is logged when it changes. -/
  | switched {enabled : Bool} (hoperation : operation = .setEnabled enabled)
      (hchange : enabled ≠ monitor.enabled) :
      OperationLog source operation moment monitor [.switched enabled]
  /-- It is not logged when it stays. -/
  | stayed (hoperation : operation = .setEnabled monitor.enabled) :
      OperationLog source operation moment monitor []
  /-- The capacity is logged as it is in force. -/
  | resized {capacity : Nat} (hoperation : operation = .setCapacity capacity) :
      OperationLog source operation moment monitor [.resized (max capacity 1)]
  /-- No other operation logs anything. -/
  | silent (htakes : monitor.takes operation = false)
      (hswitch : ∀ enabled, operation ≠ .setEnabled enabled)
      (hcapacity : ∀ capacity, operation ≠ .setCapacity capacity) :
      OperationLog source operation moment monitor []

/-- The events of an operation that takes no sample. -/
def changeEvents (operation : Operation) (monitor : Monitor State) : List Event :=
  match operation with
  | .setEnabled enabled => if enabled = monitor.enabled then [] else [.switched enabled]
  | .setCapacity capacity => [.resized (max capacity 1)]
  | _ => []

/-- An operation that takes a sample takes what the pass gives, stamped with the next timestamp,
and nothing where the pass panics. -/
theorem taken?_of_takes (htakes : monitor.takes operation = true) :
    monitor.taken? source operation moment =
      (Sample.ofPass monitor.enabled (source.pass moment.world monitor.sampler.source).1
        (monitor.sampler.nextTimestamp moment.clock)).toOption := by
  rw [taken?, if_pos htakes, Sampler.answer_sample]

/-- An operation that takes a sample logs what the pass gives it to log. -/
theorem events_perform_of_takes (htakes : monitor.takes operation = true) :
    (monitor.perform source operation moment).events =
      Event.ofPass monitor.enabled (source.pass moment.world monitor.sampler.source).1
        (monitor.sampler.nextTimestamp moment.clock) := by
  rw [perform_of_takes htakes, Outcome.map, ← Sampler.events_sample]
  cases hanswer : (monitor.sampler.sample source monitor.enabled moment).answer with
  | ok sample => rw [sample_of_ok hanswer]
  | error cause => rw [sample_of_error hanswer]

/-- An operation that takes no sample logs the change it makes, if any. -/
theorem events_perform_of_not_takes (htakes : monitor.takes operation = false) :
    (monitor.perform source operation moment).events = monitor.changeEvents operation := by
  cases operation with
  | sample => cases htakes
  | health =>
    obtain ⟨latest, hlatest⟩ := exists_latest_of_not_takes (Or.inl rfl) htakes
    rw [perform_of_latest (Or.inl rfl) hlatest]
    rfl
  | available =>
    obtain ⟨latest, hlatest⟩ := exists_latest_of_not_takes (Or.inr rfl) htakes
    rw [perform_of_latest (Or.inr rfl) hlatest]
    rfl
  | _ => rfl

/-- The log of an operation is in its events. -/
theorem OperationLog.eq {lines : List Line}
    (h : monitor.OperationLog source operation moment lines) :
    lines = (monitor.perform source operation moment).events.map Event.line := by
  cases h with
  | measured henabled htaken htrace =>
    obtain ⟨htakes, hanswer⟩ := taken?_eq_some_iff.mp htaken
    rw [Sampler.answer_sample, htrace.pass_eq, henabled] at hanswer
    cases hanswer
    rw [events_perform_of_takes htakes, htrace.pass_eq, henabled]
    rfl
  | readingFailed henabled htaken htrace =>
    obtain ⟨htakes, -⟩ := taken?_eq_some_iff.mp htaken
    rw [events_perform_of_takes htakes, htrace.pass_eq, henabled]
    rfl
  | unread hdisabled htaken =>
    obtain ⟨htakes, -⟩ := taken?_eq_some_iff.mp htaken
    rw [events_perform_of_takes htakes, hdisabled]
    rfl
  | broken hanswer =>
    obtain ⟨htakes, henabled, hpass⟩ := answer_perform_eq_error_iff.mp hanswer
    rw [events_perform_of_takes htakes, hpass, henabled]
    rfl
  | switched hoperation hchange =>
    subst hoperation
    rw [events_perform_of_not_takes rfl, changeEvents, if_neg hchange, List.map_singleton,
      Event.line_switched]
  | stayed hoperation =>
    subst hoperation
    rw [events_perform_of_not_takes rfl, changeEvents, if_pos rfl, List.map_nil]
  | resized hoperation =>
    subst hoperation
    rfl
  | silent htakes hswitch hcapacity =>
    rw [events_perform_of_not_takes htakes]
    cases operation with
    | setEnabled enabled => exact absurd rfl (hswitch enabled)
    | setCapacity capacity => exact absurd rfl (hcapacity capacity)
    | _ => rfl

/-- An operation that takes a sample is logged by how the pass for it goes. -/
theorem exists_operationLog_of_takes (source : Source State World) (moment : Moment World)
    (htakes : monitor.takes operation = true) :
    ∃ lines, monitor.OperationLog source operation moment lines := by
  obtain ⟨reads, result, last, htrace⟩ :=
    source.exists_passTrace moment.world monitor.sampler.source
  have htaken : monitor.taken? source operation moment = _ := taken?_of_takes htakes
  rw [htrace.pass_eq] at htaken
  cases henabled : monitor.enabled with
  | false =>
    rw [henabled] at htaken
    exact ⟨[], .unread henabled htaken⟩
  | true =>
    rw [henabled] at htaken
    rcases result with (cause | cause) | readings
    · exact ⟨_, .readingFailed henabled htaken htrace⟩
    · have hpass := congrArg Prod.fst htrace.pass_eq
      exact ⟨[], .broken (answer_perform_eq_error_iff.mpr ⟨htakes, henabled, hpass⟩)⟩
    · exact ⟨_, .measured henabled htaken htrace⟩

/-- An operation that takes no sample has a log. -/
theorem exists_operationLog_of_not_takes (source : Source State World) (moment : Moment World)
    (htakes : monitor.takes operation = false) :
    ∃ lines, monitor.OperationLog source operation moment lines := by
  cases hoperation : operation with
  | setEnabled enabled =>
    by_cases hchange : enabled = monitor.enabled
    · exact ⟨[], .stayed (by rw [hchange])⟩
    · exact ⟨_, .switched rfl hchange⟩
  | setCapacity capacity => exact ⟨_, .resized rfl⟩
  | _ =>
    subst hoperation
    exact ⟨[], .silent htakes (by simp) (by simp)⟩

/-- The log of an operation consists of the lines of its events. -/
theorem operationLog_iff {lines : List Line} :
    monitor.OperationLog source operation moment lines ↔
      lines = (monitor.perform source operation moment).events.map Event.line := by
  constructor
  · exact OperationLog.eq
  · rintro rfl
    have hexists : ∃ lines, monitor.OperationLog source operation moment lines := by
      cases htakes : monitor.takes operation with
      | true => exact exists_operationLog_of_takes source moment htakes
      | false => exact exists_operationLog_of_not_takes source moment htakes
    obtain ⟨lines, hoperationLog⟩ := hexists
    rw [← hoperationLog.eq]
    exact hoperationLog

/-! ## The log of a run -/

/-- The events of a run. -/
def runEvents (source : Source State World) (operations : List (Operation × Moment World))
    (monitor : Monitor State) : List Event :=
  (monitor.run source operations).flatMap Outcome.events

theorem runEvents_cons (source : Source State World) (step : Operation × Moment World)
    (rest : List (Operation × Moment World)) (monitor : Monitor State) :
    monitor.runEvents source (step :: rest) =
      (monitor.perform source step.1 step.2).events ++
        (monitor.perform source step.1 step.2).state.runEvents source rest := by
  rw [runEvents, run, List.flatMap_cons]
  rfl

/-- The lines of a run: those of each operation on the monitor as it then is. -/
inductive RunLog (source : Source State World) :
    List (Operation × Moment World) → Monitor State → List Line → Prop
  | nil (monitor : Monitor State) : RunLog source [] monitor []
  | cons {step : Operation × Moment World} {rest : List (Operation × Moment World)}
      {monitor : Monitor State} {lines more : List Line}
      (hstep : monitor.OperationLog source step.1 step.2 lines)
      (hrest : RunLog source rest (monitor.perform source step.1 step.2).state more) :
      RunLog source (step :: rest) monitor (lines ++ more)

/-- The log of a run consists of the lines of its events. -/
theorem runLog_iff {operations : List (Operation × Moment World)} {lines : List Line} :
    RunLog source operations monitor lines ↔
      lines = (monitor.runEvents source operations).map Event.line := by
  constructor
  · intro h
    induction h with
    | nil monitor => rfl
    | cons hstep _ ih => rw [runEvents_cons, List.map_append, ← hstep.eq, ← ih]
  · rintro rfl
    induction operations generalizing monitor with
    | nil => exact .nil monitor
    | cons step rest ih =>
      rw [runEvents_cons, List.map_append]
      exact .cons (operationLog_iff.mpr rfl) ih

/-! ## The switch -/

/-- An operation logs a line about the switch exactly if it changes it. -/
theorem switches_perform (source : Source State World) (operation : Operation)
    (moment : Moment World) (monitor : Monitor State) :
    ((monitor.perform source operation moment).events.map Event.line).filter Line.isSwitch =
      if (monitor.perform source operation moment).state.enabled = monitor.enabled then []
      else [.switched (monitor.perform source operation moment).state.enabled] := by
  rw [enabled_perform]
  cases htakes : monitor.takes operation with
  | true =>
    have hsame : (monitor.changed operation).enabled = monitor.enabled := by
      cases operation <;> first | rfl | cases htakes
    rw [events_perform_of_takes htakes, hsame, if_pos rfl]
    cases monitor.enabled with
    | false => rfl
    | true =>
      rcases (source.pass moment.world monitor.sampler.source).1 with
        (cause | cause) | readings <;> simp [Event.ofPass]
  | false =>
    rw [events_perform_of_not_takes htakes]
    cases operation with
    | setEnabled enabled =>
      by_cases hchange : enabled = monitor.enabled <;> simp [changeEvents, changed, hchange]
    | setCapacity capacity => simp [changeEvents, changed]
    | _ => simp [changeEvents, changed]

/-- The lines about the switch alternate between on and off, from where it is at the start to
where it is at the end. -/
theorem isChain_switches (source : Source State World)
    (operations : List (Operation × Moment World)) (monitor : Monitor State) :
    ∃ switches : List Bool,
      ((monitor.runEvents source operations).map Event.line).filter Line.isSwitch =
          switches.map Line.switched ∧
        (monitor.enabled :: switches).IsChain (· ≠ ·) ∧
        (monitor.enabled :: switches).getLast? =
          some (monitor.after source operations).enabled := by
  induction operations generalizing monitor with
  | nil => exact ⟨[], rfl, .singleton _, rfl⟩
  | cons step rest ih =>
    obtain ⟨switches, hlines, hchain, hlast⟩ := ih (monitor.perform source step.1 step.2).state
    rw [runEvents_cons, List.map_append, List.filter_append, hlines, switches_perform, after_cons]
    by_cases hstays :
        (monitor.perform source step.1 step.2).state.enabled = monitor.enabled
    · rw [if_pos hstays]
      rw [hstays] at hchain hlast
      exact ⟨switches, rfl, hchain, hlast⟩
    · rw [if_neg hstays]
      refine ⟨(monitor.perform source step.1 step.2).state.enabled :: switches, rfl,
        .cons_cons (Ne.symm hstays) hchain, ?_⟩
      rw [List.getLast?_cons_cons]
      exact hlast

/-! ## Samples without readings -/

/-- The sample that an operation takes without readings since one of them fails. -/
def failedSample? (source : Source State World) (operation : Operation) (moment : Moment World)
    (monitor : Monitor State) : Option Sample :=
  if monitor.enabled && source.passFails moment.world monitor.sampler.source then
    monitor.taken? source operation moment
  else none

/-- The samples that a run takes without readings since one of them fails. -/
def failedSamples (source : Source State World) :
    List (Operation × Moment World) → Monitor State → List Sample
  | [], _ => []
  | (operation, moment) :: rest, monitor =>
    (monitor.failedSample? source operation moment).toList ++
      (monitor.perform source operation moment).state.failedSamples source rest

/-- The sample of a failed pass is the sample that the step takes. -/
theorem failedSample?_sublist (source : Source State World) (operation : Operation)
    (moment : Moment World) (monitor : Monitor State) :
    (monitor.failedSample? source operation moment).toList.Sublist
      (monitor.taken? source operation moment).toList := by
  unfold failedSample?
  split
  · exact .refl _
  · exact List.nil_sublist _

/-- A sample without readings shows zeros. -/
theorem exists_eq_zeroed_of_failedSample? {sample : Sample}
    (h : monitor.failedSample? source operation moment = some sample) :
    ∃ timestamp, sample = Sample.zeroed timestamp := by
  unfold failedSample? at h
  split at h
  · rename_i hpassFails
    obtain ⟨henabled, hpassFails⟩ := Bool.and_eq_true_iff.mp hpassFails
    obtain ⟨cause, hpass⟩ := Source.passFails_iff.mp hpassFails
    obtain ⟨-, hanswer⟩ := taken?_eq_some_iff.mp h
    rw [Sampler.answer_sample, hpass, henabled] at hanswer
    cases hanswer
    exact ⟨_, rfl⟩
  · cases h

/-- An operation logs as many warnings as it takes samples without readings. -/
theorem warnings_perform (source : Source State World) (operation : Operation)
    (moment : Moment World) (monitor : Monitor State) :
    ((monitor.perform source operation moment).events.map Event.line).countP
        (·.1 = .warn) =
      (monitor.failedSample? source operation moment).toList.length := by
  cases htakes : monitor.takes operation with
  | true =>
    rw [events_perform_of_takes htakes, failedSample?, taken?_of_takes htakes, Source.passFails]
    cases monitor.enabled with
    | false => rfl
    | true =>
      rcases (source.pass moment.world monitor.sampler.source).1 with
        (cause | cause) | readings <;> rfl
  | false =>
    rw [events_perform_of_not_takes htakes, failedSample?, taken?_of_not_takes htakes, ite_self]
    cases operation with
    | setEnabled enabled =>
      by_cases hchange : enabled = monitor.enabled <;>
        simp [changeEvents, hchange, Line.switched]
    | _ => rfl

/-- The samples without readings are among those that a run takes. -/
theorem failedSamples_sublist_taken (source : Source State World)
    (operations : List (Operation × Moment World)) (monitor : Monitor State) :
    (monitor.failedSamples source operations).Sublist (monitor.taken source operations) := by
  induction operations generalizing monitor with
  | nil => exact .refl []
  | cons step rest ih =>
    rw [failedSamples, taken_cons]
    exact (failedSample?_sublist source step.1 step.2 monitor).append (ih _)

/-- The samples of failed passes consist of zeros. -/
theorem exists_eq_zeroed_of_mem_failedSamples {operations : List (Operation × Moment World)}
    {sample : Sample} (hmem : sample ∈ monitor.failedSamples source operations) :
    ∃ timestamp, sample = Sample.zeroed timestamp := by
  induction operations generalizing monitor with
  | nil => cases hmem
  | cons step rest ih =>
    rw [failedSamples, List.mem_append, Option.mem_toList] at hmem
    rcases hmem with hfailedSample | hmem
    · exact exists_eq_zeroed_of_failedSample? hfailedSample
    · exact ih hmem

/-- A run logs as many warnings as it takes samples without readings. -/
theorem warnings_runEvents (source : Source State World)
    (operations : List (Operation × Moment World)) (monitor : Monitor State) :
    ((monitor.runEvents source operations).map Event.line).countP (·.1 = .warn) =
      (monitor.failedSamples source operations).length := by
  induction operations generalizing monitor with
  | nil => rfl
  | cons step rest ih =>
    rw [runEvents_cons, List.map_append, List.countP_append, warnings_perform, ih, failedSamples,
      List.length_append]

/-! ## The log -/

/-- With a steady source every operation of a run has an answer. -/
theorem exists_answer_of_mem_run (hsteady : source.Steady)
    {operations : List (Operation × Moment World)} {outcome : Outcome (Monitor State) Answer}
    (hmem : outcome ∈ monitor.run source operations) :
    ∃ answer, outcome.answer = .ok answer := by
  induction operations generalizing monitor with
  | nil => cases hmem
  | cons step rest ih =>
    rcases List.mem_cons.mp hmem with rfl | hmem
    · exact exists_answer_of_steady hsteady step.1 step.2 monitor
    · exact ih hmem

/-- The log of any run is the one that `RunLog` describes: a line with the figures of each
sample all of whose readings succeed, a warning with the error of the first reading that
fails, nothing while monitoring is disabled, a line for each change of the switch and for each
capacity as it is then in force, and nothing else.  The lines about the switch alternate
between on and off, from where it was to where it is in the end.  There are as many warnings
as samples that are zeros because a reading failed, among all samples that were taken: also
those that a question took, and those that are no longer kept.  Only a panic keeps a sample
from being taken and logged, and a source that never panics raises none. -/
theorem log_tells_run (source : Source State World)
    (operations : List (Operation × Moment World)) (monitor : Monitor State) :
    let lines := (monitor.runEvents source operations).map Event.line
    (∀ told, RunLog source operations monitor told ↔ told = lines) ∧
      (∃ switches : List Bool,
        lines.filter Line.isSwitch = switches.map Line.switched ∧
          (monitor.enabled :: switches).IsChain (· ≠ ·) ∧
          (monitor.enabled :: switches).getLast? =
            some (monitor.after source operations).enabled) ∧
      lines.countP (·.1 = .warn) = (monitor.failedSamples source operations).length ∧
      (monitor.failedSamples source operations).Sublist (monitor.taken source operations) ∧
      (∀ sample ∈ monitor.failedSamples source operations,
        ∃ timestamp, sample = Sample.zeroed timestamp) ∧
      (source.Steady →
        ∀ outcome ∈ monitor.run source operations, ∃ answer, outcome.answer = .ok answer) := by
  intro lines
  refine ⟨fun told => runLog_iff, isChain_switches source operations monitor,
    warnings_runEvents source operations monitor,
    failedSamples_sublist_taken source operations monitor,
    ?_, ?_⟩
  · intro sample hmem
    exact exists_eq_zeroed_of_mem_failedSamples hmem
  · intro hsteady outcome hmem
    exact exists_answer_of_mem_run hsteady hmem

end Monitor

end ResourceHealth
