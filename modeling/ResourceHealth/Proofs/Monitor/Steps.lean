import ResourceHealth.Monitor.Run
import ResourceHealth.Proofs.Sampler.Result

/-!
# What an operation does to a monitor

An operation either takes a sample, and then it is the sampler that decides what
happens, or it never asks the source and cannot fail.  The lemmas here say all that
an operation can do, so that nothing else needs to look into it.

Main definitions:

- `Monitor.takes`: whether an operation takes a sample now.
- `Monitor.taken?`, `Monitor.taken`: the sample that an operation takes, and those of a run.
- `Monitor.returned?`: the sample in an answer.
- `Monitor.changed`: what an operation changes that takes none.

Main results:

- Theorem `Monitor.perform_of_takes`: an operation that takes a sample is sampling.
- Theorem `Monitor.state_perform_of_not_takes`: any other changes what it names.
- Theorem `Monitor.answer_perform_eq_error_iff`: which operations end in a panic.
-/

namespace ResourceHealth

namespace Monitor

variable {State World : Type}

/-- Whether an operation takes a sample now. -/
def takes (operation : Operation) (monitor : Monitor State) : Bool :=
  match operation with
  | .sample => true
  | .health | .available => monitor.history.latest?.isNone
  | _ => false

/-- The sample that an operation takes, if it takes one. -/
def taken? (source : Source State World) (operation : Operation) (moment : Moment World)
    (monitor : Monitor State) : Option Sample :=
  if monitor.takes operation then
    (monitor.sampler.sample source monitor.enabled moment).answer.toOption
  else none

/-- The sample in an answer, if the answer is one. -/
def returned? : Except Panic Answer → Option Sample
  | .ok (.sample sample) => some sample
  | _ => none

/-- The samples that a run takes, one after the other. -/
def taken (source : Source State World) :
    List (Operation × Moment World) → Monitor State → List Sample
  | [], _ => []
  | (operation, moment) :: rest, monitor =>
    (monitor.taken? source operation moment).toList ++
      (monitor.perform source operation moment).state.taken source rest

/-- What an operation leaves that takes no sample. -/
def changed (operation : Operation) (monitor : Monitor State) : Monitor State :=
  match operation with
  | .setEnabled enabled => { monitor with enabled }
  | .setThresholds thresholds => { monitor with thresholds }
  | .setCapacity capacity => { monitor with history := monitor.history.setCapacity capacity }
  | .clear => { monitor with history := monitor.history.clear }
  | _ => monitor

/-! ## Taking a sample -/

/-- After a success the sample is in the history. -/
theorem sample_of_ok {source : Source State World} {moment : Moment World}
    {monitor : Monitor State} {sample : Sample}
    (h : (monitor.sampler.sample source monitor.enabled moment).answer = .ok sample) :
    monitor.sample source moment =
      { answer := .ok sample
        state :=
          { monitor with
            sampler := (monitor.sampler.sample source monitor.enabled moment).state
            history := monitor.history.push sample }
        events := (monitor.sampler.sample source monitor.enabled moment).events } := by
  simp only [Monitor.sample, h]

/-- After a panic nothing but the sampler has changed. -/
theorem sample_of_error {source : Source State World} {moment : Moment World}
    {monitor : Monitor State} {cause : Panic}
    (h : (monitor.sampler.sample source monitor.enabled moment).answer = .error cause) :
    monitor.sample source moment =
      { answer := .error cause
        state :=
          { monitor with
            sampler := (monitor.sampler.sample source monitor.enabled moment).state }
        events := (monitor.sampler.sample source monitor.enabled moment).events } := by
  simp only [Monitor.sample, h]

/-- The monitor hands out the sampler's answer. -/
@[simp]
theorem answer_sample (source : Source State World) (moment : Moment World)
    (monitor : Monitor State) :
    (monitor.sample source moment).answer =
      (monitor.sampler.sample source monitor.enabled moment).answer := by
  cases h : (monitor.sampler.sample source monitor.enabled moment).answer with
  | ok sample => rw [sample_of_ok h]
  | error cause => rw [sample_of_error h]

/-- Taking a sample leaves the monitor with the sampler that took it. -/
@[simp]
theorem sampler_sample (source : Source State World) (moment : Moment World)
    (monitor : Monitor State) :
    (monitor.sample source moment).state.sampler =
      (monitor.sampler.sample source monitor.enabled moment).state := by
  cases h : (monitor.sampler.sample source monitor.enabled moment).answer with
  | ok sample => rw [sample_of_ok h]
  | error cause => rw [sample_of_error h]

@[simp]
theorem thresholds_sample (source : Source State World) (moment : Moment World)
    (monitor : Monitor State) :
    (monitor.sample source moment).state.thresholds = monitor.thresholds := by
  cases h : (monitor.sampler.sample source monitor.enabled moment).answer with
  | ok sample => rw [sample_of_ok h]
  | error cause => rw [sample_of_error h]

/-! ## Operations that take a sample -/

/-- A query to an empty history takes a sample. -/
theorem takes_of_latest?_eq_none {operation : Operation} {monitor : Monitor State}
    (hasks : operation = .health ∨ operation = .available)
    (h : monitor.history.latest? = none) : monitor.takes operation = true := by
  rcases hasks with rfl | rfl <;> simp [takes, h]

/-- A query takes no sample where there is one already. -/
theorem not_takes_of_latest {operation : Operation} {monitor : Monitor State}
    {latest : Sample} (hasks : operation = .health ∨ operation = .available)
    (h : monitor.history.latest? = some latest) : monitor.takes operation = false := by
  rcases hasks with rfl | rfl <;> simp [takes, h]

/-- An operation that takes a sample samples, and answers by the sample. -/
theorem perform_of_takes {source : Source State World} {operation : Operation}
    {moment : Moment World} {monitor : Monitor State} (h : monitor.takes operation = true) :
    monitor.perform source operation moment =
      (monitor.sample source moment).map (operation.reply · monitor.thresholds) := by
  cases operation with
  | sample => rfl
  | health =>
    have hnone : monitor.history.latest? = none := Option.isNone_iff_eq_none.mp h
    simp only [perform, health, hnone, Outcome.map]
    cases (monitor.sample source moment).answer <;> rfl
  | available =>
    have hnone : monitor.history.latest? = none := Option.isNone_iff_eq_none.mp h
    simp only [perform, available, health, hnone, Outcome.map]
    cases (monitor.sample source moment).answer <;> rfl
  | _ => cases h

/-- An operation that takes a sample changes the monitor as taking a sample does. -/
theorem state_perform_of_takes {source : Source State World} {operation : Operation}
    {moment : Moment World} {monitor : Monitor State} (h : monitor.takes operation = true) :
    (monitor.perform source operation moment).state = (monitor.sample source moment).state := by
  rw [perform_of_takes h]
  rfl

/-- An operation that takes a sample replies with it, judged by the present thresholds. -/
theorem answer_perform_of_takes {source : Source State World} {operation : Operation}
    {moment : Moment World} {monitor : Monitor State} (h : monitor.takes operation = true) :
    (monitor.perform source operation moment).answer =
      (monitor.sampler.sample source monitor.enabled moment).answer.map
        (operation.reply · monitor.thresholds) := by
  rw [perform_of_takes h, Outcome.map, answer_sample]

/-! ## Operations that take none -/

/-- With a sample at hand, a question about it is answered by it and changes nothing. -/
theorem perform_of_latest {source : Source State World} {operation : Operation}
    {moment : Moment World} {monitor : Monitor State} {latest : Sample}
    (hasks : operation = .health ∨ operation = .available)
    (h : monitor.history.latest? = some latest) :
    monitor.perform source operation moment =
      { answer := .ok (operation.reply latest monitor.thresholds), state := monitor } := by
  rcases hasks with rfl | rfl
  · simp only [perform, health_of_latest h]
    rfl
  · simp only [perform, available, health_of_latest h]
    rfl

/-- The newest sample is there when a question does not take one. -/
theorem exists_latest_of_not_takes {operation : Operation} {monitor : Monitor State}
    (hasks : operation = .health ∨ operation = .available)
    (h : monitor.takes operation = false) :
    ∃ latest, monitor.history.latest? = some latest := by
  cases hlatest : monitor.history.latest? with
  | some latest => exact ⟨latest, rfl⟩
  | none =>
    rw [takes_of_latest?_eq_none hasks hlatest] at h
    cases h

/-- An operation that takes no sample changes no more than what it names. -/
theorem state_perform_of_not_takes {source : Source State World} {operation : Operation}
    {moment : Moment World} {monitor : Monitor State} (h : monitor.takes operation = false) :
    (monitor.perform source operation moment).state = monitor.changed operation := by
  cases operation with
  | sample => cases h
  | health =>
    obtain ⟨latest, hlatest⟩ := exists_latest_of_not_takes (Or.inl rfl) h
    rw [perform_of_latest (Or.inl rfl) hlatest]
    rfl
  | available =>
    obtain ⟨latest, hlatest⟩ := exists_latest_of_not_takes (Or.inr rfl) h
    rw [perform_of_latest (Or.inr rfl) hlatest]
    rfl
  | _ => rfl

/-- And it has an answer. -/
theorem answer_perform_of_not_takes (source : Source State World) {operation : Operation}
    (moment : Moment World) {monitor : Monitor State} (h : monitor.takes operation = false) :
    ∃ answer, (monitor.perform source operation moment).answer = .ok answer := by
  cases operation with
  | sample => cases h
  | health =>
    obtain ⟨latest, hlatest⟩ := exists_latest_of_not_takes (Or.inl rfl) h
    rw [perform_of_latest (Or.inl rfl) hlatest]
    exact ⟨_, rfl⟩
  | available =>
    obtain ⟨latest, hlatest⟩ := exists_latest_of_not_takes (Or.inr rfl) h
    rw [perform_of_latest (Or.inr rfl) hlatest]
    exact ⟨_, rfl⟩
  | _ => exact ⟨_, rfl⟩

@[simp]
theorem sampler_changed (operation : Operation) (monitor : Monitor State) :
    (monitor.changed operation).sampler = monitor.sampler := by
  cases operation <;> rfl

/-! ## What is taken, and panics -/

/-- An operation that takes no sample adds none. -/
theorem taken?_of_not_takes {source : Source State World} {operation : Operation}
    {moment : Moment World} {monitor : Monitor State} (h : monitor.takes operation = false) :
    monitor.taken? source operation moment = none := by
  simp [taken?, h]

/-- A sample is taken exactly when the operation takes one and the sampler succeeds. -/
theorem taken?_eq_some_iff {source : Source State World} {operation : Operation}
    {moment : Moment World} {monitor : Monitor State} {sample : Sample} :
    monitor.taken? source operation moment = some sample ↔
      monitor.takes operation = true ∧
        (monitor.sampler.sample source monitor.enabled moment).answer = .ok sample := by
  unfold taken?
  cases htakes : monitor.takes operation with
  | false => simp
  | true =>
    cases (monitor.sampler.sample source monitor.enabled moment).answer <;>
      simp [Except.toOption]

/-- An operation panics exactly when it takes a sample while monitoring is enabled and the
pass over the source panics. -/
theorem answer_perform_eq_error_iff {source : Source State World} {operation : Operation}
    {moment : Moment World} {monitor : Monitor State} {cause : Panic} :
    (monitor.perform source operation moment).answer = .error cause ↔
      monitor.takes operation = true ∧ monitor.enabled = true ∧
        (source.pass moment.world monitor.sampler.source).1 = .error (.panic cause) := by
  cases htakes : monitor.takes operation with
  | false =>
    obtain ⟨answer, hanswer⟩ := answer_perform_of_not_takes source moment htakes
    simp [hanswer]
  | true =>
    have hpass :
        (monitor.sampler.sample source monitor.enabled moment).answer = .error cause ↔
          monitor.enabled = true ∧
            (source.pass moment.world monitor.sampler.source).1 = .error (.panic cause) := by
      rw [Sampler.answer_sample]
      exact Sample.ofPass_eq_error_iff
    rw [answer_perform_of_takes htakes, ← hpass]
    cases (monitor.sampler.sample source monitor.enabled moment).answer <;> simp [Except.map]

/-- A panic takes no sample. -/
theorem taken?_of_panic {source : Source State World} {operation : Operation}
    {moment : Moment World} {monitor : Monitor State} {cause : Panic}
    (h : (monitor.perform source operation moment).answer = .error cause) :
    monitor.taken? source operation moment = none := by
  cases htaken : monitor.taken? source operation moment with
  | none => rfl
  | some sample =>
    obtain ⟨htakes, hanswer⟩ := taken?_eq_some_iff.mp htaken
    rw [answer_perform_of_takes htakes, hanswer] at h
    cases h

/-- With a steady source every operation has an answer. -/
theorem exists_answer_of_steady {source : Source State World} (h : source.Steady)
    (operation : Operation) (moment : Moment World) (monitor : Monitor State) :
    ∃ answer, (monitor.perform source operation moment).answer = .ok answer := by
  cases hanswer : (monitor.perform source operation moment).answer with
  | ok answer => exact ⟨answer, rfl⟩
  | error cause =>
    obtain ⟨-, -, hpanic⟩ := answer_perform_eq_error_iff.mp hanswer
    exact absurd hpanic (h.pass_ne_panic _ _ _)

/-! ## What is returned -/

/-- Sampling returns the sample that it takes. -/
theorem returned?_perform_sample (source : Source State World) (moment : Moment World)
    (monitor : Monitor State) :
    returned? (monitor.perform source .sample moment).answer =
      monitor.taken? source .sample moment := by
  have htakes : monitor.takes .sample = true := rfl
  rw [answer_perform_of_takes htakes, taken?, if_pos htakes]
  cases (monitor.sampler.sample source monitor.enabled moment).answer <;> rfl

/-- Nothing else returns a sample. -/
theorem returned?_perform_of_ne (source : Source State World) {operation : Operation}
    (moment : Moment World) (monitor : Monitor State) (h : operation ≠ .sample) :
    returned? (monitor.perform source operation moment).answer = none := by
  cases htakes : monitor.takes operation with
  | true =>
    rw [answer_perform_of_takes htakes]
    cases (monitor.sampler.sample source monitor.enabled moment).answer with
    | error cause => rfl
    | ok sample =>
      cases operation with
      | sample => exact absurd rfl h
      | health => rfl
      | available => rfl
      | _ => cases htakes
  | false =>
    cases operation with
    | sample => cases htakes
    | health =>
      obtain ⟨latest, hlatest⟩ := exists_latest_of_not_takes (Or.inl rfl) htakes
      rw [perform_of_latest (Or.inl rfl) hlatest]
      rfl
    | available =>
      obtain ⟨latest, hlatest⟩ := exists_latest_of_not_takes (Or.inr rfl) htakes
      rw [perform_of_latest (Or.inr rfl) hlatest]
      rfl
    | _ => rfl

/-- A sample that is returned was taken. -/
theorem returned?_perform (source : Source State World) (operation : Operation)
    (moment : Moment World) (monitor : Monitor State) :
    returned? (monitor.perform source operation moment).answer = none ∨
      returned? (monitor.perform source operation moment).answer =
        monitor.taken? source operation moment := by
  by_cases hsample : operation = .sample
  · subst hsample
    exact Or.inr (returned?_perform_sample source moment monitor)
  · exact Or.inl (returned?_perform_of_ne source moment monitor hsample)

/-! ## Runs -/

@[simp]
theorem taken_nil (source : Source State World) (monitor : Monitor State) :
    monitor.taken source [] = [] :=
  rfl

theorem taken_cons (source : Source State World) (step : Operation × Moment World)
    (rest : List (Operation × Moment World)) (monitor : Monitor State) :
    monitor.taken source (step :: rest) =
      (monitor.taken? source step.1 step.2).toList ++
        (monitor.perform source step.1 step.2).state.taken source rest :=
  rfl

/-- The samples that a run returns are among those that it takes, in their order. -/
theorem returned_sublist_taken (source : Source State World)
    (operations : List (Operation × Moment World)) (monitor : Monitor State) :
    ((monitor.run source operations).filterMap fun outcome => returned? outcome.answer).Sublist
      (monitor.taken source operations) := by
  induction operations generalizing monitor with
  | nil => exact List.Sublist.refl []
  | cons step rest ih =>
    have hrest := ih (monitor.perform source step.1 step.2).state
    rw [taken_cons]
    simp only [run, List.filterMap_cons]
    rcases returned?_perform source step.1 step.2 monitor with hnone | htaken
    · rw [hnone]
      exact hrest.trans (List.sublist_append_right _ _)
    · rw [htaken]
      cases monitor.taken? source step.1 step.2 with
      | none => exact hrest
      | some sample => exact hrest.cons_cons sample

end Monitor

end ResourceHealth
