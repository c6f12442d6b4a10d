import ResourceHealth.Proofs.Monitor.Steps

/-!
# Passes over the source

A monitor does nothing to its source but make passes over it, one for each sample that is
taken while monitoring is enabled.  What a run leaves of the source is therefore what these
passes leave, in their order.

Main definitions:

- `Monitor.reads`: whether an operation makes a pass.
- `Monitor.passes`: the surroundings of the passes that a run makes.

Main results:

- Theorem `Monitor.source_after`: the state of the source is left by the passes.
- Theorem `Monitor.passes_eq_nil_of_disabled`: no pass is made while monitoring is disabled.
-/

namespace ResourceHealth

/-! ## Passes -/

/-- A sample leaves the state that one pass leaves, and none while monitoring is disabled. -/
theorem Sampler.source_sample {State World : Type} (source : Source State World)
    (enabled : Bool) (moment : Moment World) (sampler : Sampler State) :
    (sampler.sample source enabled moment).state.source =
      if enabled then (source.pass moment.world sampler.source).2 else sampler.source := by
  unfold sample
  cases enabled with
  | false => rfl
  | true =>
    rcases source.pass moment.world sampler.source with ⟨(error | panic) | readings, state⟩ <;>
      rfl

namespace Monitor

variable {State World : Type}

/-- Whether an operation makes a pass over the source: it takes a sample while monitoring is
enabled. -/
def reads (operation : Operation) (monitor : Monitor State) : Bool :=
  monitor.takes operation && monitor.enabled

/-- The surroundings of the passes that a run makes, one after the other. -/
def passes (source : Source State World) :
    List (Operation × Moment World) → Monitor State → List World
  | [], _ => []
  | (operation, moment) :: rest, monitor =>
    (if monitor.reads operation then [moment.world] else []) ++
      (monitor.perform source operation moment).state.passes source rest

theorem passes_append (source : Source State World)
    (first second : List (Operation × Moment World)) (monitor : Monitor State) :
    monitor.passes source (first ++ second) =
      monitor.passes source first ++ (monitor.after source first).passes source second := by
  induction first generalizing monitor with
  | nil => rfl
  | cons step rest ih => rw [List.cons_append, passes, passes, ih, List.append_assoc, after_cons]

/-- An operation leaves the state that its pass leaves, or does not touch it. -/
theorem source_perform (source : Source State World) (operation : Operation)
    (moment : Moment World) (monitor : Monitor State) :
    (monitor.perform source operation moment).state.sampler.source =
      if monitor.reads operation then (source.pass moment.world monitor.sampler.source).2
      else monitor.sampler.source := by
  unfold reads
  cases htakes : monitor.takes operation with
  | true =>
    rw [state_perform_of_takes htakes, sampler_sample, Sampler.source_sample]
    rfl
  | false =>
    rw [state_perform_of_not_takes htakes, sampler_changed]
    rfl

/-- The state of the source after a run is left by the passes of the run alone. -/
theorem source_after (source : Source State World)
    (operations : List (Operation × Moment World)) (monitor : Monitor State) :
    (monitor.after source operations).sampler.source =
      (monitor.passes source operations).foldl (fun state world => (source.pass world state).2)
        monitor.sampler.source := by
  induction operations generalizing monitor with
  | nil => rfl
  | cons step rest ih =>
    rw [after_cons, ih, passes, List.foldl_append, source_perform]
    cases monitor.reads step.1 <;> rfl

/-- An operation that does not panic takes a sample if it asks for one. -/
theorem taken?_eq_none_iff_of_answer {source : Source State World} {operation : Operation}
    {moment : Moment World} {monitor : Monitor State}
    (h : ∃ answer, (monitor.perform source operation moment).answer = .ok answer) :
    monitor.taken? source operation moment = none ↔ monitor.takes operation = false := by
  obtain ⟨answer, hanswer⟩ := h
  cases htakes : monitor.takes operation with
  | false => simp [taken?_of_not_takes htakes]
  | true =>
    rw [answer_perform_of_takes htakes] at hanswer
    rw [taken?, if_pos htakes]
    cases hsample : (monitor.sampler.sample source monitor.enabled moment).answer with
    | ok sample => simp [Except.toOption]
    | error cause =>
      rw [hsample] at hanswer
      cases hanswer

/-! ## Disabled stretches -/

/-- The switch is changed by nothing but the operation for it. -/
theorem enabled_perform (source : Source State World) (operation : Operation)
    (moment : Moment World) (monitor : Monitor State) :
    (monitor.perform source operation moment).state.enabled =
      (monitor.changed operation).enabled := by
  cases htakes : monitor.takes operation with
  | true =>
    rw [state_perform_of_takes htakes]
    have hsame : monitor.changed operation = monitor := by
      cases operation <;> first | rfl | cases htakes
    rw [hsame]
    cases hanswer : (monitor.sampler.sample source monitor.enabled moment).answer with
    | ok sample => rw [sample_of_ok hanswer]
    | error cause => rw [sample_of_error hanswer]
  | false => rw [state_perform_of_not_takes htakes]

/-- As long as monitoring stays disabled no pass is made. -/
theorem passes_eq_nil_of_disabled (source : Source State World)
    {stretch : List (Operation × Moment World)} {monitor : Monitor State}
    (hdisabled : monitor.enabled = false)
    (hstays : ∀ step ∈ stretch, step.1 ≠ .setEnabled true) :
    monitor.passes source stretch = [] := by
  induction stretch generalizing monitor with
  | nil => rfl
  | cons step rest ih =>
    have hnext : (monitor.perform source step.1 step.2).state.enabled = false := by
      rw [enabled_perform]
      have hstep := hstays step List.mem_cons_self
      cases hoperation : step.1 with
      | setEnabled enabled =>
        cases enabled with
        | false => rfl
        | true => exact absurd hoperation hstep
      | _ => exact hdisabled
    rw [passes, ih hnext fun other hmem => hstays other (List.mem_cons_of_mem step hmem)]
    simp [reads, hdisabled]

end Monitor

end ResourceHealth
