import Mathlib.Data.List.Forall2
import ResourceHealth.Proofs.Monitor.Steps

/-!
# Runs that differ in their times

Two monitors may have the same figures although one of them has seen later times than
the other, say because it has been through readings that came to nothing.  The one then
trails the other, and whatever both are asked, with the same readings and the same clock
for both, keeps it so.

Main definitions:

- `Sample.EqUpToTime`, `Answer.EqUpToTime`, `Monitor.EqUpToTime`: equal up to times, which are
  not earlier.
- `Source.replies`, `Source.replay`: the answers of a source, and a source that gives them
  again.

Main results:

- Theorem `Source.pass_replay`: a replayed pass comes to the same.
- Theorem `Monitor.EqUpToTime.perform`: an operation that both carry out keeps the relation.
- Theorem `Monitor.EqUpToTime.of_panic`: so does a panic of the one that is behind.
-/

namespace ResourceHealth

/-! ## The same figures, not earlier -/

/-- The same figures, taken at the same time or later. -/
structure Sample.EqUpToTime (late early : Sample) : Prop where
  figures : { late with timestamp := early.timestamp } = early
  time : early.timestamp ≤ late.timestamp

/-- The same answer, but for samples that may have been taken later. -/
inductive Answer.EqUpToTime : Answer → Answer → Prop where
  | sample {late early : Sample} (h : late.EqUpToTime early) :
      EqUpToTime (.sample late) (.sample early)
  | health (health : Health) : EqUpToTime (.health health) (.health health)
  | available (available : Bool) : EqUpToTime (.available available) (.available available)
  | nothing : EqUpToTime (.summary none) (.summary none)
  | summary {late early : Sample} (h : late.EqUpToTime early) (historySize : Nat)
      (health : Health) :
      EqUpToTime (.summary (some ⟨late, historySize, health⟩))
        (.summary (some ⟨early, historySize, health⟩))
  | done : EqUpToTime .done .done

/-- The same monitor, but for samples and a time that may be later, and for the source. -/
structure Monitor.EqUpToTime {State Other : Type} (late : Monitor State) (early : Monitor Other) :
    Prop where
  thresholds : late.thresholds = early.thresholds
  enabled : late.enabled = early.enabled
  capacity : late.history.capacity = early.history.capacity
  entries : List.Forall₂ Sample.EqUpToTime late.history.entries early.history.entries
  time : early.sampler.lastTimestamp ≤ late.sampler.lastTimestamp

/-! ## Giving answers again -/

/-- The answers of a source to the three readings of a pass. -/
structure Replies where
  cpu : Except Fault Binary64
  memory : Except Fault MemoryReading
  disk : Except Fault Binary64

namespace Replies

/-- One of the readings panics after those before it have succeeded. -/
def PanicsWith (replies : Replies) (cause : Panic) : Prop :=
  replies.cpu = .error (.panic cause) ∨
    (∃ cpu, replies.cpu = .ok cpu) ∧ replies.memory = .error (.panic cause) ∨
    (∃ cpu, replies.cpu = .ok cpu) ∧ (∃ memory, replies.memory = .ok memory) ∧
      replies.disk = .error (.panic cause)

end Replies

namespace Source

variable {State World : Type}

/-- The answers that a source would give to the three readings, one after the other. -/
def replies (source : Source State World) (world : World) (state : State) : Replies :=
  let cpu := source.cpu world state
  let memory := source.memory world cpu.2
  let disk := source.disk world memory.2
  ⟨cpu.1, memory.1, disk.1⟩

/-- A source that gives the answers in its surroundings. -/
def replay : Source Unit Replies where
  cpu replies state := (replies.cpu, state)
  memory replies state := (replies.memory, state)
  disk replies state := (replies.disk, state)

/-- A replayed pass comes to the same. -/
theorem pass_replay (source : Source State World) (world : World) (state : State) :
    (replay.pass (source.replies world state) ()).1 = (source.pass world state).1 := by
  rcases hcpu : source.cpu world state with ⟨fault | cpu, second⟩
  · simp [pass, replies, replay, hcpu]
  rcases hmemory : source.memory world second with ⟨fault | memory, third⟩
  · simp [pass, replies, replay, hcpu, hmemory]
  rcases hdisk : source.disk world third with ⟨fault | disk, last⟩ <;>
    simp [pass, replies, replay, hcpu, hmemory, hdisk]

/-- A pass panics exactly when one of its readings does. -/
theorem pass_eq_panic_iff {source : Source State World} {world : World} {state : State}
    {cause : Panic} :
    (source.pass world state).1 = .error (.panic cause) ↔
      (source.replies world state).PanicsWith cause := by
  unfold Replies.PanicsWith
  rcases hcpu : source.cpu world state with ⟨fault | cpu, second⟩
  · simp [pass, replies, hcpu]
  rcases hmemory : source.memory world second with ⟨fault | memory, third⟩
  · simp [pass, replies, hcpu, hmemory]
  rcases hdisk : source.disk world third with ⟨fault | disk, last⟩ <;>
    simp [pass, replies, hcpu, hmemory, hdisk]

end Source

/-! ## Samples and answers -/

namespace Sample.EqUpToTime

variable {late early : Sample}

/-- Times do not matter for health. -/
theorem classify_eq (h : late.EqUpToTime early) (thresholds : Thresholds) :
    Health.classify late thresholds = Health.classify early thresholds := by
  rw [← h.figures]
  rfl

/-- Nor do they for any other answer about a sample. -/
theorem reply (h : late.EqUpToTime early) (operation : Operation) (thresholds : Thresholds) :
    (operation.reply late thresholds).EqUpToTime (operation.reply early thresholds) := by
  cases operation with
  | health =>
    simp only [Operation.reply, h.classify_eq]
    exact .health _
  | available =>
    simp only [Operation.reply, h.classify_eq]
    exact .available _
  | _ => exact .sample h

end Sample.EqUpToTime

/-- From one pass at two times come two samples, or none. -/
theorem Sample.eqUpToTime_ofPass {enabled : Bool} {result : Except Fault Readings}
    {late early : Binary64} (htime : early ≤ late) {sample : Sample}
    (h : Sample.ofPass enabled result late = .ok sample) :
    ∃ other, Sample.ofPass enabled result early = .ok other ∧ sample.EqUpToTime other := by
  unfold Sample.ofPass at *
  cases enabled with
  | false =>
    cases h
    exact ⟨_, rfl, rfl, htime⟩
  | true =>
    rcases result with (error | panic) | readings
    · cases h
      exact ⟨_, rfl, rfl, htime⟩
    · cases h
    · cases h
      exact ⟨_, rfl, rfl, htime⟩

/-! ## Monitors -/

/-- Lists that are related entry by entry have related last entries, or none. -/
theorem forall₂_getLast? {Late Early : Type} {related : Late → Early → Prop} {late : List Late}
    {early : List Early} (h : List.Forall₂ related late early) :
    (late.getLast? = none ∧ early.getLast? = none) ∨
      ∃ a b, late.getLast? = some a ∧ early.getLast? = some b ∧ related a b := by
  induction h with
  | nil => exact Or.inl ⟨rfl, rfl⟩
  | @cons a b late early hab hrest ih =>
    right
    rw [List.getLast?_cons, List.getLast?_cons]
    rcases ih with ⟨hlate, hearly⟩ | ⟨last, other, hlate, hearly, hlast⟩
    · rw [hlate, hearly]
      exact ⟨a, b, rfl, rfl, hab⟩
    · rw [hlate, hearly]
      exact ⟨last, other, rfl, rfl, hlast⟩

/-- What is kept of both is the same again. -/
theorem Sample.eqUpToTime_newest {late early : List Sample}
    (h : List.Forall₂ Sample.EqUpToTime late early) (capacity : Nat) :
    List.Forall₂ Sample.EqUpToTime (History.newest capacity late)
      (History.newest capacity early) := by
  unfold History.newest
  rw [h.length_eq]
  exact List.forall₂_drop _ h

namespace Monitor.EqUpToTime

variable {State Other World OtherWorld : Type} {late : Monitor State} {early : Monitor Other}

/-- Both have a newest sample, the same up to its time, or neither has. -/
theorem latest?_cases (h : late.EqUpToTime early) :
    (late.history.latest? = none ∧ early.history.latest? = none) ∨
      ∃ latest other, late.history.latest? = some latest ∧
        early.history.latest? = some other ∧ latest.EqUpToTime other :=
  forall₂_getLast? h.entries

/-- Monitors that agree up to the timestamp take a sample in the same operations. -/
theorem takes_eq (h : late.EqUpToTime early) (operation : Operation) :
    late.takes operation = early.takes operation := by
  rcases h.latest?_cases with ⟨hlate, hearly⟩ | ⟨latest, other, hlate, hearly, -⟩ <;>
    cases operation <;> simp [takes, hlate, hearly]

/-- A sample that both take, of the same readings and by the same clock. -/
theorem sample (h : late.EqUpToTime early) {source : Source State World}
    {other : Source Other OtherWorld} {moment : Moment World} {again : Moment OtherWorld}
    (hclock : moment.clock = again.clock)
    (hpass : (source.pass moment.world late.sampler.source).1 =
      (other.pass again.world early.sampler.source).1)
    {taken : Sample}
    (htaken : (late.sampler.sample source late.enabled moment).answer = .ok taken) :
    ∃ same, (early.sampler.sample other early.enabled again).answer = .ok same ∧
      taken.EqUpToTime same ∧
      (late.sample source moment).state.EqUpToTime (early.sample other again).state := by
  have htime : early.sampler.nextTimestamp again.clock ≤
      late.sampler.nextTimestamp moment.clock := by
    rw [← hclock]
    exact Binary64.max_le_max_left moment.clock h.time
  have hanswer := htaken
  rw [Sampler.answer_sample, hpass, h.enabled] at hanswer
  obtain ⟨same, hsame, hupToTime⟩ := Sample.eqUpToTime_ofPass htime hanswer
  rw [← Sampler.answer_sample] at hsame
  refine ⟨same, hsame, hupToTime, ?_⟩
  have hentries : List.Forall₂ Sample.EqUpToTime (late.history.entries ++ [taken])
      (early.history.entries ++ [same]) :=
    List.rel_append h.entries (.cons hupToTime .nil)
  rw [sample_of_ok htaken, sample_of_ok hsame]
  refine ⟨h.thresholds, h.enabled, h.capacity, ?_, ?_⟩
  · simp only [History.entries_push, h.capacity]
    exact Sample.eqUpToTime_newest hentries _
  · simp only [Sampler.lastTimestamp_sample]
    exact htime

/-- What both change, they change in the same way. -/
theorem changed (h : late.EqUpToTime early) (operation : Operation) :
    (late.changed operation).EqUpToTime (early.changed operation) := by
  cases operation with
  | setCapacity capacity =>
    exact ⟨h.thresholds, h.enabled, rfl, Sample.eqUpToTime_newest h.entries _, h.time⟩
  | clear => exact ⟨h.thresholds, h.enabled, h.capacity, .nil, h.time⟩
  | setEnabled enabled => exact ⟨h.thresholds, rfl, h.capacity, h.entries, h.time⟩
  | setThresholds thresholds => exact ⟨rfl, h.enabled, h.capacity, h.entries, h.time⟩
  | _ => exact h

/-- Their summaries are the same, but for the time. -/
theorem summary (h : late.EqUpToTime early) :
    (Answer.summary late.summary?).EqUpToTime (.summary early.summary?) := by
  have hlength : late.history.length = early.history.length := h.entries.length_eq
  rcases h.latest?_cases with ⟨hlate, hearly⟩ | ⟨latest, other, hlate, hearly, hsame⟩
  · simp only [summary?, hlate, hearly]
    exact .nothing
  · simp only [summary?, hlate, hearly, Option.map_some, hlength, h.thresholds,
      hsame.classify_eq]
    exact .summary hsame _ _

/-- An operation that takes no sample is answered in the same way by both. -/
theorem answer_of_not_takes (h : late.EqUpToTime early) {operation : Operation}
    (htakes : late.takes operation = false) (source : Source State World)
    (other : Source Other OtherWorld) (moment : Moment World) (again : Moment OtherWorld) :
    ∃ given wanted, (late.perform source operation moment).answer = .ok given ∧
      (early.perform other operation again).answer = .ok wanted ∧ given.EqUpToTime wanted := by
  have hasks : (operation = .health ∨ operation = .available) →
      ∃ given wanted, (late.perform source operation moment).answer = .ok given ∧
        (early.perform other operation again).answer = .ok wanted ∧ given.EqUpToTime wanted := by
    intro hasks
    obtain ⟨latest, hlate⟩ := exists_latest_of_not_takes hasks htakes
    rcases h.latest?_cases with ⟨hnone, -⟩ | ⟨_, other, hsome, hearly, hsame⟩
    · rw [hlate] at hnone
      cases hnone
    · rw [hlate] at hsome
      cases hsome
      rw [perform_of_latest hasks hlate, perform_of_latest hasks hearly, h.thresholds]
      exact ⟨_, _, rfl, rfl, hsame.reply operation early.thresholds⟩
  cases operation with
  | sample => cases htakes
  | health => exact hasks (Or.inl rfl)
  | available => exact hasks (Or.inr rfl)
  | summary => exact ⟨_, _, rfl, rfl, h.summary⟩
  | _ => exact ⟨_, _, rfl, rfl, .done⟩

/-- An operation that both carry out, with the same readings and the same clock: if it does
not panic for one, it does not for the other, and they are still the same up to times. -/
theorem perform (h : late.EqUpToTime early) {source : Source State World}
    {other : Source Other OtherWorld} {moment : Moment World} {again : Moment OtherWorld}
    (hclock : moment.clock = again.clock)
    (hpass : (source.pass moment.world late.sampler.source).1 =
      (other.pass again.world early.sampler.source).1)
    {operation : Operation} {answer : Answer}
    (hanswer : (late.perform source operation moment).answer = .ok answer) :
    (∃ wanted, (early.perform other operation again).answer = .ok wanted ∧
      answer.EqUpToTime wanted) ∧
      (late.perform source operation moment).state.EqUpToTime
        (early.perform other operation again).state := by
  cases htakes : late.takes operation with
  | true =>
    have hother : early.takes operation = true := by rw [← h.takes_eq, htakes]
    rw [answer_perform_of_takes htakes] at hanswer
    cases htaken : (late.sampler.sample source late.enabled moment).answer with
    | error cause =>
      rw [htaken] at hanswer
      cases hanswer
    | ok taken =>
      rw [htaken] at hanswer
      cases hanswer
      obtain ⟨same, hsame, hupToTime, hstate⟩ := h.sample hclock hpass htaken
      rw [answer_perform_of_takes hother, hsame, state_perform_of_takes htakes,
        state_perform_of_takes hother, h.thresholds]
      exact ⟨⟨_, rfl, hupToTime.reply operation early.thresholds⟩, hstate⟩
  | false =>
    have hother : early.takes operation = false := by rw [← h.takes_eq, htakes]
    obtain ⟨given, wanted, hgiven, hwanted, hupToTime⟩ :=
      h.answer_of_not_takes htakes source other moment again
    rw [hgiven] at hanswer
    cases hanswer
    rw [state_perform_of_not_takes htakes, state_perform_of_not_takes hother]
    exact ⟨⟨wanted, hwanted, hupToTime⟩, h.changed operation⟩

end Monitor.EqUpToTime

/-- A panic changes nothing but the sampler, whose time does not go back. -/
theorem Monitor.perform_of_panic {State World : Type} {source : Source State World}
    {operation : Operation} {moment : Moment World} {monitor : Monitor State} {cause : Panic}
    (hlast : monitor.sampler.lastTimestamp ≠ .nan)
    (h : (monitor.perform source operation moment).answer = .error cause) :
    (monitor.perform source operation moment).state =
      { monitor with sampler := (monitor.perform source operation moment).state.sampler } ∧
      monitor.sampler.lastTimestamp ≤
        (monitor.perform source operation moment).state.sampler.lastTimestamp := by
  obtain ⟨htakes, henabled, hpass⟩ := answer_perform_eq_error_iff.mp h
  have hpanic : (monitor.sampler.sample source monitor.enabled moment).answer =
      .error cause := by
    rw [Sampler.answer_sample]
    exact Sample.ofPass_eq_error_iff.mpr ⟨henabled, hpass⟩
  rw [state_perform_of_takes htakes, sample_of_error hpanic]
  exact ⟨rfl, Sampler.le_lastTimestamp_sample source monitor.enabled moment hlast⟩

/-- A monitor that panics falls behind, and no more. -/
theorem Monitor.EqUpToTime.of_panic {State Other World : Type} {late : Monitor State}
    {early : Monitor Other} (h : late.EqUpToTime early) {source : Source State World}
    {operation : Operation} {moment : Moment World} {cause : Panic}
    (hpanic : (late.perform source operation moment).answer = .error cause) :
    (late.perform source operation moment).state.EqUpToTime early := by
  obtain ⟨hstate, htime⟩ :=
    perform_of_panic (Binary64.ne_nan_of_le_right h.time) hpanic
  rw [hstate]
  exact ⟨h.thresholds, h.enabled, h.capacity, h.entries, Binary64.le_trans h.time htime⟩

end ResourceHealth
