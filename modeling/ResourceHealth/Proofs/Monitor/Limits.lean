import ResourceHealth.Proofs.Monitor.Queries
import ResourceHealth.Proofs.Monitor.Trailing

/-!
# Thresholds and capacities have no say in sampling

Two monitors over one source may have different thresholds and different capacities, from
the start or set later.  What they sample is the same: a question takes a sample only if
nothing is kept, and whether anything is kept does not depend on how much may be kept.

Main definitions:

- `Operation.EqUpToLimits`: the same operation, but for the limit that it sets.
- `Monitor.EqUpToLimits`: the same monitor, but for its limits and for how far back its history
  goes.

Main results:

- Theorem `Monitor.EqUpToLimits.perform`: operations that agree up to the limits keep this
  agreement.
- Theorem `Monitor.sampling_regardless_of_limits`: runs that differ only in limits take the
  same samples at the same steps and make the same readings.
-/

namespace ResourceHealth

/-- The same operation, but for the thresholds or the capacity that it sets. -/
inductive Operation.EqUpToLimits : Operation → Operation → Prop where
  | same (operation : Operation) : EqUpToLimits operation operation
  | setThresholds (thresholds others : Thresholds) :
      EqUpToLimits (.setThresholds thresholds) (.setThresholds others)
  | setCapacity (capacity other : Nat) : EqUpToLimits (.setCapacity capacity) (.setCapacity other)

/-- Operations that agree up to the limits, at the same moment. -/
structure Operation.EqUpToLimitsAt {World : Type} (first second : Operation × Moment World) :
    Prop where
  operation : first.1.EqUpToLimits second.1
  moment : first.2 = second.2

namespace History

variable {Entry : Type}

/-- One of two lists is the end of the other: the shorter is the end of the longer. -/
def SuffixComparable (first second : List Entry) : Prop :=
  first <:+ second ∨ second <:+ first

/-- Of two comparable lists the shorter one is the end of the longer one. -/
theorem SuffixComparable.shorter_suffix {first second : List Entry}
    (h : SuffixComparable first second) :
    (first.length ≤ second.length → first <:+ second) ∧
      (second.length ≤ first.length → second <:+ first) := by
  rcases h with h | h
  · refine ⟨fun _ => h, fun hle => ?_⟩
    rw [h.eq_of_length_le hle]
  · refine ⟨fun hle => ?_, fun _ => h⟩
    rw [h.eq_of_length_le hle]

/-- What two capacities leave of comparable lists is comparable. -/
theorem SuffixComparable.newest {first second : List Entry} (h : SuffixComparable first second)
    (capacity other : Nat) :
    SuffixComparable (History.newest capacity first) (History.newest other second) := by
  rcases h with h | h
  · exact List.suffix_or_suffix_of_suffix ((newest_suffix _ _).trans h) (newest_suffix _ _)
  · exact List.suffix_or_suffix_of_suffix (newest_suffix _ _) ((newest_suffix _ _).trans h)

/-- Appending the same entries keeps two lists comparable. -/
theorem SuffixComparable.append {first second : List Entry} (h : SuffixComparable first second)
    (more : List Entry) : SuffixComparable (first ++ more) (second ++ more) := by
  rcases h with ⟨before, rfl⟩ | ⟨before, rfl⟩
  · exact Or.inl ⟨before, (List.append_assoc _ _ _).symm⟩
  · exact Or.inr ⟨before, (List.append_assoc _ _ _).symm⟩

/-- Comparable lists have the same last entry, unless just one of them is empty. -/
theorem SuffixComparable.getLast?_eq {first second : List Entry} (h : SuffixComparable first second)
    (hempty : first = [] ↔ second = []) : first.getLast? = second.getLast? := by
  by_cases hnone : first = []
  · rw [hempty.mp hnone, hnone]
  · have hsome : second ≠ [] := hempty.not.mp hnone
    rcases h with ⟨before, rfl⟩ | ⟨before, rfl⟩
    · exact (List.getLast?_append_of_ne_nil before hnone).symm
    · exact List.getLast?_append_of_ne_nil before hsome

end History

namespace Monitor

variable {State World : Type} {source : Source State World} {first second : Monitor State}

/-- The same monitor, but for its limits and for how far back its history goes. -/
structure EqUpToLimits (first second : Monitor State) : Prop where
  sampler : first.sampler = second.sampler
  enabled : first.enabled = second.enabled
  entries : History.SuffixComparable first.history.entries second.history.entries
  /-- However little may be kept, it is kept by both or by neither. -/
  empty : first.history.entries = [] ↔ second.history.entries = []
  room : 1 ≤ first.history.capacity
  otherRoom : 1 ≤ second.history.capacity

namespace EqUpToLimits

/-- Monitors started with different limits agree up to the limits. -/
theorem start (thresholds others : Thresholds) (capacity other : Nat) (enabled : Bool)
    (initial : State) :
    (Monitor.start thresholds capacity enabled initial).EqUpToLimits
      (Monitor.start others other enabled initial) where
  sampler := rfl
  enabled := rfl
  entries := Or.inl List.suffix_rfl
  empty := Iff.rfl
  room := Nat.le_max_right capacity 1
  otherRoom := Nat.le_max_right other 1

theorem latest?_eq (h : first.EqUpToLimits second) :
    first.history.latest? = second.history.latest? :=
  h.entries.getLast?_eq h.empty

/-- Either both take a sample or neither does. -/
theorem takes_eq (h : first.EqUpToLimits second) {operation other : Operation}
    (hoperation : operation.EqUpToLimits other) : first.takes operation = second.takes other := by
  cases hoperation with
  | same => cases operation <;> simp only [takes, h.latest?_eq]
  | setThresholds => rfl
  | setCapacity => rfl

/-- What the sampler of one does the sampler of the other does. -/
theorem sampler_sample_eq (h : first.EqUpToLimits second) (source : Source State World)
    (moment : Moment World) :
    first.sampler.sample source first.enabled moment =
      second.sampler.sample source second.enabled moment := by
  rw [h.sampler, h.enabled]

/-- Monitors that agree up to the limits take the same sample in a step. -/
theorem taken?_eq (h : first.EqUpToLimits second) (source : Source State World)
    {operation other : Operation} (hoperation : operation.EqUpToLimits other)
    (moment : Moment World) :
    first.taken? source operation moment = second.taken? source other moment := by
  rw [taken?, taken?, h.takes_eq hoperation, h.sampler_sample_eq source moment]

theorem returned?_eq (h : first.EqUpToLimits second) (source : Source State World)
    {operation other : Operation} (hoperation : operation.EqUpToLimits other)
    (moment : Moment World) :
    returned? (first.perform source operation moment).answer =
      returned? (second.perform source other moment).answer := by
  by_cases hsample : operation = .sample
  · subst hsample
    cases hoperation
    rw [returned?_perform_sample, returned?_perform_sample, h.taken?_eq source (.same _)]
  · have hother : other ≠ .sample := by
      rintro rfl
      cases hoperation
      exact hsample rfl
    rw [returned?_perform_of_ne source moment first hsample,
      returned?_perform_of_ne source moment second hother]

/-- Sampling keeps the agreement up to the limits, also when the source panics. -/
theorem sample (h : first.EqUpToLimits second) (source : Source State World)
    (moment : Moment World) :
    (first.sample source moment).state.EqUpToLimits (second.sample source moment).state := by
  have hsame := h.sampler_sample_eq source moment
  cases hanswer : (first.sampler.sample source first.enabled moment).answer with
  | ok sample =>
    rw [sample_of_ok hanswer, sample_of_ok (hsame ▸ hanswer)]
    exact
      { sampler := congrArg Outcome.state hsame
        enabled := h.enabled
        entries := (h.entries.append [sample]).newest _ _
        empty := by
          simp [History.newest_eq_nil_iff h.room, History.newest_eq_nil_iff h.otherRoom]
        room := h.room
        otherRoom := h.otherRoom }
  | error cause =>
    rw [sample_of_error hanswer, sample_of_error (hsame ▸ hanswer)]
    exact { h with sampler := congrArg Outcome.state hsame }

/-- Other capacities keep the agreement up to the limits. -/
theorem setCapacity (h : first.EqUpToLimits second) (capacity other : Nat) :
    (first.changed (.setCapacity capacity)).EqUpToLimits (second.changed (.setCapacity other)) where
  sampler := h.sampler
  enabled := h.enabled
  entries := h.entries.newest _ _
  empty := by
    simpa [Monitor.changed, History.newest_eq_nil_iff (Nat.le_max_right capacity 1),
      History.newest_eq_nil_iff (Nat.le_max_right other 1)] using h.empty
  room := Nat.le_max_right capacity 1
  otherRoom := Nat.le_max_right other 1

/-- Operations that take no sample keep the agreement, whatever limits they set. -/
theorem changed (h : first.EqUpToLimits second) {operation other : Operation}
    (hoperation : operation.EqUpToLimits other) :
    (first.changed operation).EqUpToLimits (second.changed other) := by
  cases hoperation with
  | setThresholds => exact { h with }
  | setCapacity capacity other => exact h.setCapacity capacity other
  | same =>
    cases operation with
    | setEnabled enabled => exact { h with enabled := rfl }
    | setThresholds thresholds => exact { h with }
    | setCapacity capacity => exact h.setCapacity capacity capacity
    | clear => exact { h with entries := Or.inl List.suffix_rfl, empty := Iff.rfl }
    | _ => exact h

/-- Operations that agree up to the limits keep this agreement. -/
theorem perform (h : first.EqUpToLimits second) (source : Source State World)
    {operation other : Operation} (hoperation : operation.EqUpToLimits other)
    (moment : Moment World) :
    (first.perform source operation moment).state.EqUpToLimits
      (second.perform source other moment).state := by
  have htakes := h.takes_eq hoperation
  cases hfirst : first.takes operation with
  | true =>
    rw [state_perform_of_takes hfirst, state_perform_of_takes (htakes ▸ hfirst)]
    exact h.sample source moment
  | false =>
    rw [state_perform_of_not_takes hfirst, state_perform_of_not_takes (htakes ▸ hfirst)]
    exact h.changed hoperation

end EqUpToLimits

/-! ## Runs -/

/-- What each step of a run samples: whether it takes a sample, and the one that it takes
unless the source panics. -/
def samplings (source : Source State World) :
    List (Operation × Moment World) → Monitor State → List (Bool × Option Sample)
  | [], _ => []
  | (operation, moment) :: rest, monitor =>
    (monitor.takes operation, monitor.taken? source operation moment) ::
      (monitor.perform source operation moment).state.samplings source rest

variable {operations others : List (Operation × Moment World)}

/-- Runs of operations that agree up to the limits keep this agreement. -/
theorem EqUpToLimits.after (h : first.EqUpToLimits second) (source : Source State World)
    (hoperations : List.Forall₂ Operation.EqUpToLimitsAt operations others) :
    (first.after source operations).EqUpToLimits (second.after source others) := by
  induction hoperations generalizing first second with
  | nil => exact h
  | @cons step other rest more hstep hrest ih =>
    rw [after_cons, after_cons, hstep.moment]
    exact ih (h.perform source hstep.operation other.2)

/-- They sample the same at each step. -/
theorem EqUpToLimits.samplings_eq (h : first.EqUpToLimits second) (source : Source State World)
    (hoperations : List.Forall₂ Operation.EqUpToLimitsAt operations others) :
    first.samplings source operations = second.samplings source others := by
  induction hoperations generalizing first second with
  | nil => rfl
  | @cons step other rest more hstep hrest ih =>
    rw [samplings, samplings, hstep.moment, h.takes_eq hstep.operation,
      h.taken?_eq source hstep.operation, ih (h.perform source hstep.operation other.2)]

/-- They return the same samples. -/
theorem EqUpToLimits.returned_eq (h : first.EqUpToLimits second) (source : Source State World)
    (hoperations : List.Forall₂ Operation.EqUpToLimitsAt operations others) :
    (first.run source operations).map (returned? ·.answer) =
      (second.run source others).map (returned? ·.answer) := by
  induction hoperations generalizing first second with
  | nil => rfl
  | @cons step other rest more hstep hrest ih =>
    simp only [run, List.map_cons]
    rw [hstep.moment, h.returned?_eq source hstep.operation,
      ih (h.perform source hstep.operation other.2)]

/-- Two runs over one source, which is traced and does not notice it, may differ in the
thresholds and capacities that monitors start with and that operations set.  They return the
same samples, and at each step both take the same sample or neither takes one.  After any
number of steps the samplers are the same, with all the readings made so far, and so is the
switch; of the two histories the shorter is the end of the longer, and the newest samples are
the same. -/
theorem sampling_regardless_of_limits (source : Source State World)
    (thresholds otherThresholds : Thresholds) (capacity otherCapacity : Nat)
    (enabled : Bool) (initial : State)
    (hapart : List.Forall₂ Operation.EqUpToLimitsAt operations others) :
    let begun := start thresholds capacity enabled (initial, ([] : List Resource))
    let other := start otherThresholds otherCapacity enabled (initial, ([] : List Resource))
    (begun.run source.traced operations).map (returned? ·.answer) =
        (other.run source.traced others).map (returned? ·.answer) ∧
      begun.samplings source.traced operations = other.samplings source.traced others ∧
      ∀ count,
        let first := begun.after source.traced (operations.take count)
        let second := other.after source.traced (others.take count)
        first.untraced =
            (start thresholds capacity enabled initial).after source (operations.take count) ∧
          second.untraced =
            (start otherThresholds otherCapacity enabled initial).after source
              (others.take count) ∧
          first.sampler = second.sampler ∧
          first.enabled = second.enabled ∧
          (first.history.length ≤ second.history.length →
            first.history.entries <:+ second.history.entries) ∧
          (second.history.length ≤ first.history.length →
            second.history.entries <:+ first.history.entries) ∧
          first.history.latest? = second.history.latest? := by
  intro begun other
  have hbegun : begun.EqUpToLimits other := .start _ _ _ _ _ _
  refine ⟨hbegun.returned_eq _ hapart, hbegun.samplings_eq _ hapart, fun count => ?_⟩
  intro first second
  have hafter : first.EqUpToLimits second :=
    hbegun.after source.traced (List.forall₂_take count hapart)
  obtain ⟨hshorter, hlonger⟩ := hafter.entries.shorter_suffix
  exact ⟨(after_untraced source _ begun).symm, (after_untraced source _ other).symm,
    hafter.sampler, hafter.enabled, hshorter, hlonger, hafter.latest?_eq⟩

/-- Of two samples a monitor that may keep one keeps the end of what a monitor keeps that may
keep five, and neither is asked to sample for its health. -/
theorem sampling_regardless_of_one_or_five :
    let moment : Moment Replies := ⟨7, ⟨.ok 12, .ok ⟨34, 56⟩, .ok 78⟩⟩
    let steps (capacity : Nat) (thresholds : Thresholds) :=
      [.setCapacity capacity, .sample, .setThresholds thresholds, .sample, .health].map
        fun operation : Operation => (operation, moment)
    let few := (start .standard 9 true ((), ([] : List Resource))).after Source.replay.traced
      (steps 0 .standard)
    let many := (start .standard 8 true ((), ([] : List Resource))).after Source.replay.traced
      (steps 5 { cpu := ⟨10, 20⟩ })
    few.history.length = 1 ∧ many.history.length = 2 ∧
      few.history.entries <:+ many.history.entries ∧
      few.sampler.source.2 = many.sampler.source.2 := by
  intro moment steps few many
  have hapart : List.Forall₂ Operation.EqUpToLimitsAt (steps 0 .standard)
      (steps 5 { cpu := ⟨10, 20⟩ }) :=
    .cons ⟨.setCapacity _ _, rfl⟩ (.cons ⟨.same _, rfl⟩ (.cons ⟨.setThresholds _ _, rfl⟩
      (.cons ⟨.same _, rfl⟩ (.cons ⟨.same _, rfl⟩ .nil))))
  obtain ⟨-, -, hafter⟩ := sampling_regardless_of_limits Source.replay .standard .standard 9 8
    true () hapart
  obtain ⟨-, -, hsampler, -, hshorter, -, -⟩ := hafter 5
  have hfew : few.history.length = 1 := by decide +kernel
  have hmany : many.history.length = 2 := by decide +kernel
  refine ⟨hfew, hmany, hshorter ?_, congrArg (·.source.2) hsampler⟩
  change few.history.length ≤ many.history.length
  omega

end Monitor

end ResourceHealth
