import Mathlib
import ResourceHealth.Proofs.Monitor.Calls
import ResourceHealth.Proofs.Monitor.Traced

/-!
# Questions about health

Questions about health look at the newest sample and take one only if there is none, and
there is none exactly as long as none was taken since the history was last cleared.  The
answer is by the thresholds in force when the question is asked, and so is the summary; after
a question there is a newest sample, so further questions read nothing.

Main definitions:

- `Monitor.takenSinceClear`: the samples that a run takes after its last clearing.

Main results:

- Theorem `Monitor.entries_after_eq_nil_iff`: when the history is empty.
- Theorem `Monitor.run_of_latest`: with a sample at hand questions change nothing.
- Theorem `Monitor.questions_agree`: what a question does and what it answers, after any run.
-/

namespace ResourceHealth

namespace History

/-- Something is kept of what is not empty. -/
theorem newest_eq_nil_iff {Entry : Type} {capacity : Nat} (hcapacity : 1 ≤ capacity)
    {entries : List Entry} : newest capacity entries = [] ↔ entries = [] := by
  rw [← List.length_eq_zero_iff, length_newest, ← List.length_eq_zero_iff]
  omega

end History

/-- Whether an operation drops all samples. -/
def Operation.clears : Operation → Bool
  | .clear => true
  | _ => false

namespace Monitor

variable {State World : Type} {source : Source State World} {monitor : Monitor State}

/-! ## When the history is empty -/

/-- The samples that a run takes after its last clearing, or at all if it never clears. -/
def takenSinceClear (source : Source State World) (operations : List (Operation × Moment World))
    (monitor : Monitor State) : List Sample :=
  (monitor.after source (operations.rdropWhile fun step => !step.1.clears)).taken source
    (operations.rtakeWhile fun step => !step.1.clears)

theorem taken_append (source : Source State World)
    (first second : List (Operation × Moment World)) (monitor : Monitor State) :
    monitor.taken source (first ++ second) =
      monitor.taken source first ++ (monitor.after source first).taken source second := by
  induction first generalizing monitor with
  | nil => rfl
  | cons step rest ih =>
    rw [List.cons_append, taken_cons, taken_cons, ih, List.append_assoc, after_cons]

/-- An operation that does not clear leaves the history empty only if it was and no sample is
taken; the floor of the capacity is what keeps a sample that was just taken. -/
theorem entries_perform_eq_nil_iff (hsound : monitor.Sound) {operation : Operation}
    (hkeeps : operation.clears = false) (moment : Moment World) :
    (monitor.perform source operation moment).state.history.entries = [] ↔
      monitor.history.entries = [] ∧ monitor.taken? source operation moment = none := by
  cases htakes : monitor.takes operation with
  | true =>
    rw [state_perform_of_takes htakes, taken?, if_pos htakes]
    cases hanswer : (monitor.sampler.sample source monitor.enabled moment).answer with
    | ok sample =>
      rw [sample_of_ok hanswer]
      simp [Except.toOption, History.newest_eq_nil_iff hsound.one_le_capacity]
    | error cause =>
      rw [sample_of_error hanswer]
      simp [Except.toOption]
  | false =>
    rw [state_perform_of_not_takes htakes, taken?_of_not_takes htakes]
    cases operation with
    | setCapacity capacity =>
      simp [changed, History.newest_eq_nil_iff (Nat.le_max_right capacity 1)]
    | clear => cases hkeeps
    | _ => simp [changed]

/-- The history is empty exactly if no sample was taken since it was last cleared. -/
theorem entries_after_eq_nil_iff (hsound : monitor.Sound)
    (hempty : monitor.history.entries = []) (operations : List (Operation × Moment World)) :
    (monitor.after source operations).history.entries = [] ↔
      monitor.takenSinceClear source operations = [] := by
  induction operations using List.reverseRecOn with
  | nil => simp [takenSinceClear, hempty]
  | append_singleton operations step ih =>
    rw [after_append, after_cons, after_nil]
    cases hclears : step.1.clears with
    | true =>
      have hstep : step.1 = .clear := by
        cases hoperation : step.1 <;> simp_all [Operation.clears]
      have hsince : (operations ++ [step]).rtakeWhile (fun step => !step.1.clears) = [] :=
        List.rtakeWhile_concat_neg _ _ _ (by simp [hclears])
      simp [takenSinceClear, hsince, hstep, perform, clear, Outcome.map]
    | false =>
      have hsince := List.rtakeWhile_concat_pos (fun step => !step.1.clears) operations step
        (by simp [hclears])
      have hbefore := List.rdropWhile_concat_pos (fun step => !step.1.clears) operations step
        (by simp [hclears])
      have hsplit := List.rdropWhile_append_rtakeWhile
        (p := fun step => !step.1.clears) (l := operations)
      have hafter : (monitor.after source
          (operations.rdropWhile fun step => !step.1.clears)).after source
            (operations.rtakeWhile fun step => !step.1.clears) =
          monitor.after source operations := by
        rw [← after_append, hsplit]
      rw [entries_perform_eq_nil_iff (hsound.after source operations) hclears, ih,
        takenSinceClear, takenSinceClear, hsince, hbefore, taken_append, hafter]
      simp [taken_cons]

/-! ## Questions one after the other -/

/-- With a sample at hand all questions are answered by it, and nothing else happens. -/
theorem run_of_latest (source : Source State World) {latest : Sample}
    (hlatest : monitor.history.latest? = some latest)
    {questions : List (Operation × Moment World)}
    (hasks : ∀ step ∈ questions, step.1.asks = true) :
    monitor.run source questions = questions.map fun step =>
      { answer := .ok (step.1.reply latest monitor.thresholds), state := monitor } := by
  induction questions with
  | nil => rfl
  | cons step rest ih =>
    have hperform : monitor.perform source step.1 step.2 =
        { answer := .ok (step.1.reply latest monitor.thresholds), state := monitor } :=
      perform_of_latest (Operation.asks_iff.mp (hasks step List.mem_cons_self)) hlatest
    rw [run, hperform, List.map_cons,
      ih fun other hmem => hasks other (List.mem_cons_of_mem step hmem)]

/-! ## One question -/

/-- What an answered question and the monitor after it have to do with the newest sample. -/
structure AnsweredBy (source : Source State World) (latest : Sample) (thresholds : Thresholds)
    (operation : Operation) (answer : Answer) (after : Monitor State) : Prop where
  /-- The answer is by the newest sample and the thresholds in force. -/
  answer_eq : answer = operation.reply latest thresholds
  latest_eq : after.history.latest? = some latest
  /-- The summary has the same sample and the same health. -/
  summary_eq : after.summary? = some
    { latest
      historySize := after.history.length
      health := Health.classify latest thresholds }
  /-- Further questions are answered by the same sample and change nothing. -/
  run_eq : ∀ questions : List (Operation × Moment World),
    (∀ step ∈ questions, step.1.asks = true) →
      after.run source questions = questions.map fun step =>
        { answer := .ok (step.1.reply latest thresholds), state := after }

/-- A query with a latest sample in the history is answered by that sample. -/
theorem answeredBy_of_latest (source : Source State World) {latest : Sample}
    {thresholds : Thresholds} (hthresholds : monitor.thresholds = thresholds)
    (hlatest : monitor.history.latest? = some latest) (operation : Operation) :
    AnsweredBy source latest thresholds operation (operation.reply latest thresholds)
      monitor := by
  subst hthresholds
  exact
    { answer_eq := rfl
      latest_eq := hlatest
      summary_eq := by rw [summary?, hlatest, Option.map_some]
      run_eq := fun _ hasks => run_of_latest source hlatest hasks }

/-- A question that takes a sample is answered by it, and it is all that is then kept. -/
theorem answeredBy_of_taken (hsound : monitor.Sound) {operation : Operation}
    {moment : Moment World} (hempty : monitor.history.entries = []) {sample : Sample}
    (htaken : monitor.taken? source operation moment = some sample) :
    let outcome := monitor.perform source operation moment
    outcome.answer = .ok (operation.reply sample monitor.thresholds) ∧
      outcome.state.history.entries = [sample] ∧
      AnsweredBy source sample monitor.thresholds operation
        (operation.reply sample monitor.thresholds) outcome.state := by
  obtain ⟨htakes, hanswer⟩ := taken?_eq_some_iff.mp htaken
  have hentries : (monitor.perform source operation moment).state.history.entries =
      [sample] := by
    rw [state_perform_of_takes htakes, sample_of_ok hanswer]
    simp only [History.entries_push, hempty, List.nil_append]
    exact History.newest_eq_self hsound.one_le_capacity
  refine ⟨?_, hentries, answeredBy_of_latest source ?_ ?_ operation⟩
  · rw [answer_perform_of_takes htakes, hanswer]
    rfl
  · rw [state_perform_of_takes htakes, thresholds_sample]
  · rw [History.latest?, hentries]
    rfl

/-- Every question that is answered is answered by the newest sample there is afterwards;
when nothing was kept before, it is the one sample that the question takes. -/
theorem exists_answeredBy (hsound : monitor.Sound) {operation : Operation}
    {moment : Moment World} (hasks : operation.asks = true) {answer : Answer}
    (hanswer : (monitor.perform source operation moment).answer = .ok answer) :
    ∃ latest,
      AnsweredBy source latest monitor.thresholds operation answer
          (monitor.perform source operation moment).state ∧
        (monitor.history.entries = [] →
          monitor.taken? source operation moment = some latest ∧
            (monitor.perform source operation moment).state.history.entries = [latest]) := by
  cases hlatest : monitor.history.latest? with
  | some latest =>
    have hperform : monitor.perform source operation moment =
        { answer := .ok (operation.reply latest monitor.thresholds), state := monitor } :=
      perform_of_latest (Operation.asks_iff.mp hasks) hlatest
    rw [hperform] at hanswer
    cases hanswer
    refine ⟨latest, ?_, fun hempty => ?_⟩
    · rw [hperform]
      exact answeredBy_of_latest source rfl hlatest operation
    · rw [History.latest?_eq_none_iff.mpr hempty] at hlatest
      cases hlatest
  | none =>
    have hempty := History.latest?_eq_none_iff.mp hlatest
    have htakes := takes_iff.mpr (Or.inr ⟨hasks, hempty⟩)
    have hsampled := hanswer
    rw [answer_perform_of_takes htakes] at hsampled
    cases hsample : (monitor.sampler.sample source monitor.enabled moment).answer with
    | error cause =>
      rw [hsample] at hsampled
      cases hsampled
    | ok sample =>
      have htaken := taken?_eq_some_iff.mpr ⟨htakes, hsample⟩
      obtain ⟨hreply, hentries, hanswered⟩ := answeredBy_of_taken hsound hempty htaken
      rw [hreply] at hanswer
      cases hanswer
      exact ⟨sample, hanswered, fun _ => ⟨htaken, hentries⟩⟩

/-- After any run of a monitor whose source is watched, which makes no difference to it: the
history is empty exactly if no sample was taken since it was last cleared, and asking for the
summary neither samples nor changes anything.  A question about health changes nothing and
reads nothing if there is a sample; otherwise it makes one pass over the source, or none
while monitoring is disabled, and panics only if this pass does.  If it has an answer, there is
then a newest sample, the only one if it was just taken, whose health by the thresholds now in
force is the answer; the summary has the same, and all further questions get it, again without
reading or changing anything. -/
theorem questions_agree (source : Source State World) (thresholds : Thresholds)
    (capacity : Nat) (enabled : Bool) (initial : State)
    (operations : List (Operation × Moment World)) :
    let begun := start thresholds capacity enabled (initial, ([] : List Resource))
    let monitor := begun.after source.traced operations
    monitor.untraced = (start thresholds capacity enabled initial).after source operations ∧
      (monitor.history.entries = [] ↔
        begun.takenSinceClear source.traced operations = []) ∧
      (∀ moment, monitor.perform source.traced .summary moment =
        { answer := .ok (.summary monitor.summary?), state := monitor }) ∧
      ∀ operation moment, operation.asks = true →
        let outcome := monitor.perform source.traced operation moment
        (monitor.history.entries ≠ [] → outcome.state = monitor ∧ outcome.events = []) ∧
        (monitor.history.entries = [] →
          outcome.state = (monitor.sample source.traced moment).state ∧
            outcome.state.sampler.source.2 = monitor.sampler.source.2 ++
              if monitor.enabled then source.readings moment.world monitor.sampler.source.1
              else []) ∧
        (∀ cause, outcome.answer = .error cause ↔
          monitor.history.entries = [] ∧ monitor.enabled = true ∧
            (source.pass moment.world monitor.sampler.source.1).1 = .error (.panic cause)) ∧
        ∀ answer, outcome.answer = .ok answer → ∃ latest,
          AnsweredBy source.traced latest monitor.thresholds operation answer outcome.state ∧
            (monitor.history.entries = [] →
              monitor.taken? source.traced operation moment = some latest ∧
                outcome.state.history.entries = [latest]) := by
  intro begun monitor
  have hbegun : begun.Sound := sound_start thresholds capacity enabled _
  have hsound : monitor.Sound := hbegun.after source.traced operations
  refine ⟨(after_untraced source operations begun).symm,
    entries_after_eq_nil_iff hbegun rfl operations, fun moment => rfl,
    fun operation moment hasks => ⟨fun hentries => ?_, fun hempty => ⟨?_, ?_⟩,
      fun cause => ?_, fun answer hanswer => exists_answeredBy hsound hasks hanswer⟩⟩
  · obtain ⟨latest, hlatest⟩ :=
      Option.ne_none_iff_exists'.mp (History.latest?_eq_none_iff.not.mpr hentries)
    rw [perform_of_latest (Operation.asks_iff.mp hasks) hlatest]
    exact ⟨rfl, rfl⟩
  · exact state_perform_of_takes (takes_iff.mpr (Or.inr ⟨hasks, hempty⟩))
  · rw [log_perform, readings, reads_untraced, reads, takes_iff.mpr (Or.inr ⟨hasks, hempty⟩)]
    rfl
  · have htakes : monitor.takes operation = true ↔ monitor.history.entries = [] := by
      rw [takes_iff]
      constructor
      · rintro (rfl | ⟨-, hempty⟩)
        · cases hasks
        · exact hempty
      · exact fun hempty => Or.inr ⟨hasks, hempty⟩
    have hpass : (source.traced.pass moment.world monitor.sampler.source).1 =
        (source.pass moment.world monitor.sampler.source.1).1 :=
      congrArg Prod.fst (Source.pass_traced source moment.world monitor.sampler.source.1
        monitor.sampler.source.2)
    rw [answer_perform_eq_error_iff, htakes, hpass]

end Monitor

end ResourceHealth
