import ResourceHealth.Proofs.Monitor.Invariant

/-!
# Calls one after the other

Calls of several threads that come one after the other: what each thread is answered,
which samples are taken and for whom, and what is in the history afterwards.

Main definitions:

- `Call`: an operation with the thread that asks for it and its moment.
- `Monitor.answersTo`: what one thread is answered.
- `Monitor.takenBy`, `Monitor.returnedBy`: the samples that calls take and those that they
  return, each with its thread.

Main results:

- Theorem `Monitor.entries_after_calls`: the history has the newest of what it had and what
  was taken.
- Theorem `Monitor.exists_asked`: all that is taken is returned, but for one sample at most.
- Theorem `Monitor.answered_by_one_sample`: one sample answers all questions.
-/

namespace ResourceHealth

/-- Whether an operation leaves the history to the samples that are taken. -/
def Operation.keepsHistory : Operation → Bool
  | .setCapacity _ | .clear => false
  | _ => true

/-- Whether an operation is a question about the newest sample. -/
def Operation.asks : Operation → Bool
  | .health | .available => true
  | _ => false

/-- The operations that ask are the two that query the latest sample. -/
theorem Operation.asks_iff {operation : Operation} :
    operation.asks = true ↔ operation = .health ∨ operation = .available := by
  cases operation <;> simp [asks]

/-! ## Calls -/

/-- An operation, the thread that asks for it, and the moment at which it gets the lock. -/
structure Call (World : Type) where
  thread : Nat
  operation : Operation
  moment : Moment World

namespace Call

variable {World : Type}

/-- What is asked of the monitor, and when. -/
def step (call : Call World) : Operation × Moment World :=
  (call.operation, call.moment)

/-- The operations that a thread asks for. -/
def operationsOf (index : Nat) (calls : List (Call World)) : List Operation :=
  (calls.filter fun call => call.thread = index).map operation

theorem operationsOf_append (index : Nat) (first second : List (Call World)) :
    operationsOf index (first ++ second) =
      operationsOf index first ++ operationsOf index second := by
  rw [operationsOf, List.filter_append, List.map_append]
  rfl

end Call

namespace Monitor

variable {State World : Type}

/-- What a thread is answered when calls come one after the other. -/
def answersTo (source : Source State World) (index : Nat) :
    List (Call World) → Monitor State → List (Except Panic Answer)
  | [], _ => []
  | call :: rest, monitor =>
    let outcome := monitor.perform source call.operation call.moment
    (if call.thread = index then [outcome.answer] else []) ++
      outcome.state.answersTo source index rest

/-- The samples that calls take, each with the thread that takes it. -/
def takenBy (source : Source State World) :
    List (Call World) → Monitor State → List (Nat × Sample)
  | [], _ => []
  | call :: rest, monitor =>
    (monitor.taken? source call.operation call.moment).toList.map (call.thread, ·) ++
      (monitor.perform source call.operation call.moment).state.takenBy source rest

/-- The samples that calls return, each with the thread that it is returned to. -/
def returnedBy (source : Source State World) :
    List (Call World) → Monitor State → List (Nat × Sample)
  | [], _ => []
  | call :: rest, monitor =>
    let outcome := monitor.perform source call.operation call.moment
    (returned? outcome.answer).toList.map (call.thread, ·) ++
      outcome.state.returnedBy source rest

/-- A thread's answers go on from the monitor that the first run leaves. -/
theorem answersTo_append (source : Source State World) (index : Nat)
    (first second : List (Call World)) (monitor : Monitor State) :
    monitor.answersTo source index (first ++ second) =
      monitor.answersTo source index first ++
        (monitor.after source (first.map Call.step)).answersTo source index second := by
  induction first generalizing monitor with
  | nil => rfl
  | cons call rest ih =>
    rw [List.cons_append, answersTo, answersTo, ih, List.append_assoc]
    rfl

theorem takenBy_append (source : Source State World) (first second : List (Call World))
    (monitor : Monitor State) :
    monitor.takenBy source (first ++ second) =
      monitor.takenBy source first ++
        (monitor.after source (first.map Call.step)).takenBy source second := by
  induction first generalizing monitor with
  | nil => rfl
  | cons call rest ih =>
    rw [List.cons_append, takenBy, takenBy, ih, List.append_assoc]
    rfl

/-! ## What is kept -/

variable {source : Source State World} {monitor : Monitor State}

/-- Sampling takes a sample, and so does a question when there is none. -/
theorem takes_iff {operation : Operation} :
    monitor.takes operation = true ↔
      operation = .sample ∨ operation.asks = true ∧ monitor.history.entries = [] := by
  cases operation <;>
    simp [takes, Operation.asks, Option.isNone_iff_eq_none, History.latest?_eq_none_iff]

/-- An operation that leaves the history to the samples adds the one that it takes. -/
theorem history_perform (source : Source State World) {operation : Operation}
    (hkeeps : operation.keepsHistory = true) (moment : Moment World)
    (hsound : monitor.Sound) :
    (monitor.perform source operation moment).state.history.entries =
        History.newest monitor.history.capacity
          (monitor.history.entries ++ (monitor.taken? source operation moment).toList) ∧
      (monitor.perform source operation moment).state.history.capacity =
        monitor.history.capacity := by
  have hroom := History.newest_eq_self hsound.length_le_capacity
  cases htakes : monitor.takes operation with
  | true =>
    rw [state_perform_of_takes htakes, taken?, if_pos htakes]
    cases hanswer : (monitor.sampler.sample source monitor.enabled moment).answer with
    | ok sample =>
      rw [sample_of_ok hanswer]
      exact ⟨rfl, rfl⟩
    | error cause =>
      rw [sample_of_error hanswer]
      simp [Except.toOption, hroom]
  | false =>
    have hchanged : (monitor.changed operation).history = monitor.history := by
      cases operation <;> first | rfl | cases hkeeps
    rw [state_perform_of_not_takes htakes, taken?_of_not_takes htakes, hchanged]
    simp [hroom]

/-- The history has the newest of what it had and what the calls took. -/
theorem entries_after_calls {calls : List (Call World)}
    (hkeeps : ∀ call ∈ calls, call.operation.keepsHistory = true) (hsound : monitor.Sound) :
    (monitor.after source (calls.map Call.step)).history.entries =
      History.newest monitor.history.capacity
        (monitor.history.entries ++ (monitor.takenBy source calls).map Prod.snd) := by
  induction calls generalizing monitor with
  | nil =>
    simp [takenBy, History.newest_eq_self hsound.length_le_capacity]
  | cons call rest ih =>
    obtain ⟨hentries, hcapacity⟩ :=
      history_perform source (hkeeps call List.mem_cons_self) call.moment hsound
    have hrest := ih (fun other hmem => hkeeps other (List.mem_cons_of_mem call hmem))
      (hsound.perform source call.operation call.moment)
    rw [hentries, hcapacity, History.newest_append_newest] at hrest
    rw [List.map_cons, after_cons]
    refine hrest.trans ?_
    rw [takenBy, List.map_append, List.append_assoc]
    simp [Function.comp_def]

/-- The samples of the calls are those of their run. -/
theorem map_snd_takenBy (source : Source State World) (calls : List (Call World))
    (monitor : Monitor State) :
    (monitor.takenBy source calls).map Prod.snd = monitor.taken source (calls.map Call.step) := by
  induction calls generalizing monitor with
  | nil => rfl
  | cons call rest ih =>
    rw [takenBy, List.map_append, ih, List.map_map, List.map_cons, taken_cons]
    simp [Call.step, Function.comp_def]

/-! ## What is returned -/

/-- A sample that is taken is in the history afterwards. -/
theorem entries_ne_nil_of_taken {operation : Operation} {moment : Moment World}
    {sample : Sample} (hkeeps : operation.keepsHistory = true) (hsound : monitor.Sound)
    (htaken : monitor.taken? source operation moment = some sample) :
    (monitor.perform source operation moment).state.history.entries ≠ [] := by
  have hone := hsound.one_le_capacity
  rw [(history_perform source hkeeps moment hsound).1, htaken]
  intro hempty
  have hlength := congrArg List.length hempty
  rw [History.length_newest] at hlength
  simp only [Option.toList_some, List.length_append, List.length_singleton,
    List.length_nil] at hlength
  omega

/-- All that is taken is returned, but for one sample that is taken to answer a question;
there is none when the history was not empty or nothing is asked. -/
theorem exists_asked (source : Source State World) {calls : List (Call World)}
    (hkeeps : ∀ call ∈ calls, call.operation.keepsHistory = true) (hsound : monitor.Sound) :
    ∃ asked : List (Nat × Sample),
      monitor.takenBy source calls = asked ++ monitor.returnedBy source calls ∧
        asked.length ≤ 1 ∧
        (monitor.history.entries ≠ [] ∨ (∀ call ∈ calls, call.operation.asks = false) →
          asked = []) := by
  induction calls generalizing monitor with
  | nil => exact ⟨[], rfl, Nat.zero_le 1, fun _ => rfl⟩
  | cons call rest ih =>
    have hcall := hkeeps call List.mem_cons_self
    obtain ⟨asked, hrest, hlength, hnone⟩ :=
      ih (fun other hmem => hkeeps other (List.mem_cons_of_mem call hmem))
        (hsound.perform source call.operation call.moment)
    obtain ⟨hentries, -⟩ := history_perform source hcall call.moment hsound
    rw [takenBy, returnedBy, hrest]
    cases htaken : monitor.taken? source call.operation call.moment with
    | none =>
      -- Then the history stays as it was, and all is left to the rest.
      have hreturned : returned?
          (monitor.perform source call.operation call.moment).answer = none := by
        rcases returned?_perform source call.operation call.moment monitor with h | h
        · exact h
        · rw [h, htaken]
      have hsame : (monitor.perform source call.operation call.moment).state.history.entries =
          monitor.history.entries := by
        rw [hentries, htaken, Option.toList_none, List.append_nil,
          History.newest_eq_self hsound.length_le_capacity]
      refine ⟨asked, ?_, hlength, fun hcase => hnone ?_⟩
      · simp [hreturned]
      · rw [hsame]
        exact hcase.imp_right fun h other hmem => h other (List.mem_cons_of_mem call hmem)
    | some sample =>
      -- Now there is a newest sample, so no later question takes another.
      have hempty : asked = [] :=
        hnone (Or.inl (entries_ne_nil_of_taken hcall hsound htaken))
      subst hempty
      by_cases hsample : call.operation = .sample
      · refine ⟨[], ?_, Nat.zero_le 1, fun _ => rfl⟩
        have hreturned := returned?_perform_sample source call.moment monitor
        rw [← hsample] at hreturned
        rw [hreturned, htaken]
        rfl
      · refine ⟨[(call.thread, sample)], ?_, Nat.le_refl 1, fun hcase => ?_⟩
        · rw [returned?_perform_of_ne source call.moment monitor hsample]
          rfl
        · obtain ⟨htakes, -⟩ := taken?_eq_some_iff.mp htaken
          rcases takes_iff.mp htakes with hsampling | ⟨hasks, hentries⟩
          · exact absurd hsampling hsample
          · rcases hcase with hne | hasksNot
            · exact absurd hentries hne
            · rw [hasksNot call List.mem_cons_self] at hasks
              cases hasks

/-- What a thread is returned is what is returned by the calls and is its own. -/
theorem filterMap_answersTo (source : Source State World) (index : Nat)
    (calls : List (Call World)) (monitor : Monitor State) :
    (monitor.answersTo source index calls).filterMap returned? =
      ((monitor.returnedBy source calls).filter fun entry => entry.1 = index).map Prod.snd := by
  induction calls generalizing monitor with
  | nil => rfl
  | cons call rest ih =>
    simp only [answersTo, returnedBy, List.filterMap_append, List.filter_append,
      List.map_append, ih]
    congr 1
    cases hreturned : returned?
        (monitor.perform source call.operation call.moment).answer with
    | none =>
      by_cases hindex : call.thread = index <;> simp [hindex, hreturned]
    | some sample =>
      by_cases hindex : call.thread = index <;> simp [hindex, hreturned]

/-- With a steady source each call that samples is returned its sample. -/
theorem length_returnedBy (hsteady : source.Steady) (calls : List (Call World))
    (monitor : Monitor State) :
    (monitor.returnedBy source calls).length =
      (calls.map Call.operation).count .sample := by
  induction calls generalizing monitor with
  | nil => rfl
  | cons call rest ih =>
    rw [returnedBy, List.length_append, ih, List.map_cons, List.count_cons, Nat.add_comm]
    congr 1
    by_cases hsample : call.operation = .sample
    · obtain ⟨sample, hanswer⟩ :=
        Sampler.exists_sample_of_steady hsteady monitor.enabled call.moment monitor.sampler
      have htaken : monitor.taken? source .sample call.moment = some sample :=
        taken?_eq_some_iff.mpr ⟨rfl, hanswer⟩
      rw [hsample, returned?_perform_sample, htaken]
      rfl
    · rw [returned?_perform_of_ne source call.moment monitor hsample]
      simp [hsample]

/-! ## Questions -/

/-- With a sample at hand questions are answered by it, and nothing else happens. -/
theorem after_calls_of_latest (source : Source State World) {calls : List (Call World)}
    {latest : Sample} (hlatest : monitor.history.latest? = some latest)
    (hasks : ∀ call ∈ calls, call.operation.asks = true) :
    monitor.after source (calls.map Call.step) = monitor ∧
      monitor.takenBy source calls = [] ∧
      ∀ index, monitor.answersTo source index calls =
        (Call.operationsOf index calls).map fun operation =>
          .ok (operation.reply latest monitor.thresholds) := by
  induction calls with
  | nil => exact ⟨rfl, rfl, fun index => rfl⟩
  | cons call rest ih =>
    obtain ⟨hafter, htaken, hanswers⟩ :=
      ih fun other hmem => hasks other (List.mem_cons_of_mem call hmem)
    have hask := Operation.asks_iff.mp (hasks call List.mem_cons_self)
    have hperform : monitor.perform source call.operation call.moment =
        { answer := .ok (call.operation.reply latest monitor.thresholds)
          state := monitor } := perform_of_latest hask hlatest
    have htakes := not_takes_of_latest hask hlatest
    refine ⟨?_, ?_, fun index => ?_⟩
    · rw [List.map_cons, after_cons, Call.step, hperform]
      exact hafter
    · rw [takenBy, taken?_of_not_takes htakes, hperform]
      exact htaken
    · rw [answersTo, hperform]
      simp only [hanswers, Call.operationsOf, List.filter_cons]
      by_cases hindex : call.thread = index <;> simp [hindex]

/-- When nothing is kept, the first question takes a sample, which answers it and all that
follow. -/
theorem answered_by_one_sample (hsteady : source.Steady) (hsound : monitor.Sound)
    (hempty : monitor.history.entries = []) {calls : List (Call World)}
    (hasks : ∀ call ∈ calls, call.operation.asks = true) (hcalls : calls ≠ []) :
    ∃ index sample moment,
      monitor.takenBy source calls = [(index, sample)] ∧
        monitor.after source (calls.map Call.step) = (monitor.sample source moment).state ∧
        (monitor.sample source moment).state.history.entries = [sample] ∧
        ∀ index, monitor.answersTo source index calls =
          (Call.operationsOf index calls).map fun operation =>
            .ok (operation.reply sample monitor.thresholds) := by
  cases calls with
  | nil => exact absurd rfl hcalls
  | cons call rest =>
    have hask := hasks call List.mem_cons_self
    obtain ⟨sample, hanswer⟩ :=
      Sampler.exists_sample_of_steady hsteady monitor.enabled call.moment monitor.sampler
    have htakes : monitor.takes call.operation = true := takes_iff.mpr (Or.inr ⟨hask, hempty⟩)
    have htaken : monitor.taken? source call.operation call.moment = some sample :=
      taken?_eq_some_iff.mpr ⟨htakes, hanswer⟩
    have hstate : (monitor.perform source call.operation call.moment).state =
        (monitor.sample source call.moment).state := state_perform_of_takes htakes
    have hentries : (monitor.sample source call.moment).state.history.entries = [sample] := by
      rw [sample_of_ok hanswer]
      simp only [History.entries_push, hempty, List.nil_append]
      exact History.newest_eq_self hsound.one_le_capacity
    have hlatest : (monitor.sample source call.moment).state.history.latest? = some sample := by
      rw [History.latest?, hentries]
      rfl
    obtain ⟨hafter, hnone, hanswers⟩ := after_calls_of_latest source hlatest
      fun other hmem => hasks other (List.mem_cons_of_mem call hmem)
    refine ⟨call.thread, sample, call.moment, ?_, ?_, hentries, fun index => ?_⟩
    · rw [takenBy, htaken, hstate, hnone]
      rfl
    · rw [List.map_cons, after_cons, Call.step, hstate]
      exact hafter
    · rw [answersTo, hstate, hanswers, answer_perform_of_takes htakes, hanswer,
        thresholds_sample]
      simp only [Call.operationsOf, List.filter_cons, Except.map]
      by_cases hindex : call.thread = index <;> simp [hindex]

end Monitor

end ResourceHealth
