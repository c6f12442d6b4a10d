import Mathlib
import ResourceHealth.Command
import ResourceHealth.Proofs.History.Retention
import ResourceHealth.Proofs.Monitor.Series

/-!
# Commands phase by phase

A command samples first and then asks about what it has sampled.  However little its
history may keep, the newest sample is there when it asks: the question is answered with
the sample that the pass has returned, and it takes no other.  With a source that never
panics the passes of a command are therefore a row of samples, one for each pass.  With any
source, what a command has shown is not taken back.

Main definitions:

- `Command.summaryOf`: the summary of some samples.

Main results:

- Theorem `Command.exists_text_run`: what the first passes have shown stays.
- Theorem `Monitor.health_sample`: asking for health after a sample is about that sample.
- Theorem `Command.pass_of_sample`: what a pass shows is of the sample that it takes.
- Theorem `Command.passAll_of_series`: the passes of a command are a row of samples.
- Theorem `Command.summary?_of_series`: the summary after a row of samples is of the newest.
-/

namespace ResourceHealth

/-- After a sample was taken it is the newest, so asking for health, at whatever moment, is
about that sample and takes no other. -/
theorem Monitor.health_sample {State World : Type} {source : Source State World}
    {monitor : Monitor State} (hsound : monitor.Sound) {moment : Moment World} {sample : Sample}
    (hanswer : (monitor.sample source moment).answer = .ok sample) (later : Moment World) :
    (monitor.sample source moment).state.health source later =
      { answer := .ok (Health.classify sample monitor.thresholds)
        state := (monitor.sample source moment).state } := by
  have hlatest : (monitor.sample source moment).state.history.latest? = some sample := by
    rw [sample_of_ok ((answer_sample source moment monitor).symm.trans hanswer)]
    exact History.latest?_push hsound.one_le_capacity sample
  rw [health_of_latest hlatest, thresholds_sample]

namespace Command

variable {State World : Type} {source : Source State World} {settings : Settings}

/-! ## Phases in a row -/

namespace Phase

/-- Phases in a row are a phase with a row of phases behind it. -/
theorem andThen_assoc (phase : Phase State) (next last : Monitor State → Phase State) :
    (phase.andThen next).andThen last = phase.andThen fun monitor =>
      (next monitor).andThen last := by
  by_cases hdone : phase.showing.ending = .done
  · by_cases hnext : (next phase.monitor).showing.ending = .done
    · have hfirst : (phase.andThen next).showing.ending = .done := by
        rw [andThen_of_done hdone]
        exact hnext
      rw [andThen_of_done hfirst, andThen_of_done hdone, andThen_of_done hdone,
        andThen_of_done hnext]
      simp only [String.append_assoc, List.append_assoc]
    · have hfirst : (phase.andThen next).showing.ending ≠ .done := by
        rw [andThen_of_done hdone]
        exact hnext
      rw [andThen_of_ne_done hfirst, andThen_of_done hdone, andThen_of_done hdone,
        andThen_of_ne_done hnext]
  · rw [andThen_of_ne_done hdone, andThen_of_ne_done hdone, andThen_of_ne_done hdone]

/-- A next phase that shows nothing and changes nothing makes no difference. -/
theorem andThen_eq_self {phase : Phase State} {next : Monitor State → Phase State}
    (h : next phase.monitor = { showing := { text := "" }, monitor := phase.monitor }) :
    phase.andThen next = phase := by
  by_cases hdone : phase.showing.ending = .done
  · rw [andThen_of_done hdone, h, String.append_empty, List.append_nil, ← hdone]
  · exact andThen_of_ne_done hdone next

end Phase

/-- The passes at some moments and then at others are those at all of them. -/
theorem passAll_append (source : Source State World) (settings : Settings) (command : Command)
    (number : Nat) (first second : List (Moment World)) (monitor : Monitor State) :
    command.passAll source settings number (first ++ second) monitor =
      (command.passAll source settings number first monitor).andThen
        (command.passAll source settings (number + first.length) second) := by
  induction first generalizing number monitor with
  | nil => simp [passAll, Phase.andThen]
  | cons moment rest ih =>
    rw [List.cons_append, passAll, passAll, Phase.andThen_assoc]
    congr 1
    funext later
    rw [ih, List.length_cons, Nat.add_assoc, Nat.add_comm 1]

/-- What the first passes have shown stays, whatever the source does at later ones. -/
theorem exists_text_passAll_append (source : Source State World) (settings : Settings)
    (command : Command) (number : Nat) (first second : List (Moment World))
    (monitor : Monitor State) :
    ∃ more, (command.passAll source settings number (first ++ second) monitor).showing.text =
      (command.passAll source settings number first monitor).showing.text ++ more := by
  rw [passAll_append]
  exact Phase.exists_text_andThen _ _

/-! ## Passes -/

variable {monitor : Monitor State}

/-- A pass shows the sample that it takes with the health of that sample, and takes no other. -/
theorem pass_of_sample (hsound : monitor.Sound) {moment : Moment World} {sample : Sample}
    (hanswer : (monitor.sample source moment).answer = .ok sample) (settings : Settings)
    (command : Command) (number : Nat) :
    command.pass source settings number moment monitor =
      { showing := command.atOnce settings monitor.thresholds number sample
          (Health.classify sample monitor.thresholds)
        monitor := (monitor.sample source moment).state
        events := (monitor.sample source moment).events } := by
  have hhealth := Monitor.health_sample hsound hanswer moment
  cases command with
  | status strict =>
    simp only [pass, hanswer, hhealth, Monitor.thresholds_sample, List.append_nil]
  | watch count interval =>
    simp only [pass, hanswer, hhealth, Monitor.thresholds_sample, List.append_nil]
  | summary samples json => simp only [pass, hanswer, atOnce]

/-- The passes of a command are a row of samples, and what they show is of these samples, as
long as none of them is a failure. -/
theorem passAll_of_series (hsteady : source.Steady) {command : Command}
    (hdone : ∀ number sample health,
      (command.atOnce settings monitor.thresholds number sample health).ending = .done)
    (number : Nat) {moments : List (Moment World)} {samples : List Sample}
    (hsound : monitor.Sound) (hseries : monitor.Series source moments samples) :
    command.passAll source settings number moments monitor =
      { showing :=
          { text := String.join (samples.mapIdx fun index sample =>
              (command.atOnce settings monitor.thresholds (number + index) sample
                (Health.classify sample monitor.thresholds)).text) }
        monitor := (monitor.samples source moments).state
        events := (monitor.samples source moments).events } := by
  induction moments generalizing number monitor samples with
  | nil =>
    obtain rfl : samples = [] := List.length_eq_zero_iff.mp hseries.length
    rfl
  | cons moment rest ih =>
    obtain ⟨sample, hanswer⟩ := Monitor.exists_answer_sample hsteady moment monitor
    have hnext := hsound.sample source moment
    have hthresholds : (monitor.sample source moment).state.thresholds = monitor.thresholds :=
      Monitor.thresholds_sample source moment monitor
    obtain ⟨others, hothers⟩ := Monitor.exists_series hsteady rest hnext
    obtain rfl : samples = sample :: others := by
      have hsamples := hseries.answer
      rw [Monitor.samples_cons_of_ok hanswer] at hsamples
      simp only [hothers.answer] at hsamples
      cases hsamples
      rfl
    have hrest := ih (by rwa [hthresholds]) (number + 1) hnext hothers
    rw [passAll, pass_of_sample hsound hanswer, Phase.andThen_of_done (hdone _ _ _), hrest,
      Monitor.samples_cons_of_ok hanswer, hthresholds, List.mapIdx_cons, String.join_cons]
    simp only [Nat.add_zero, Nat.add_right_comm number 1, Nat.add_assoc number]

/-! ## After the passes -/

/-- The summary of some samples, as far as a history of this capacity keeps them. -/
def summaryOf (settings : Settings) (samples : List Sample) : Option Summary :=
  samples.getLast?.map fun latest =>
    { latest
      historySize := min samples.length (max 1 settings.maxHistory)
      health := Health.classify latest settings.thresholds }

/-- After a row of samples the summary is of the newest. -/
theorem summary?_of_series {state : State} {moments : List (Moment World)}
    {samples : List Sample} (hseries : (settings.monitor state).Series source moments samples) :
    ((settings.monitor state).samples source moments).state.summary? =
      summaryOf settings samples := by
  have hcapacity : (settings.monitor state).history.capacity = max settings.maxHistory 1 :=
    settings.capacity_monitor state
  have hentries : ((settings.monitor state).samples source moments).state.history.entries =
      History.newest (max settings.maxHistory 1) samples := by
    rw [hseries.entries, hcapacity]
    rfl
  unfold Monitor.summary? summaryOf
  rw [History.latest?, History.length, hentries, hseries.thresholds, History.length_newest,
    History.getLast?_newest (Nat.le_max_right _ _), Nat.max_comm]
  rfl

/-- What a command has shown after its first passes it shows in the end. -/
theorem exists_text_run (source : Source State World) (settings : Settings) (state : State)
    (moments : Nat → Moment World) (command : Command) {first second : List (Moment World)}
    (htimes : (List.range command.passes).map moments = first ++ second) :
    ∃ more, (command.run source settings state moments).text =
      (command.passAll source settings 1 first (settings.monitor state)).showing.text ++ more := by
  obtain ⟨later, hlater⟩ := exists_text_passAll_append source settings command 1 first second
    (settings.monitor state)
  rw [← htimes] at hlater
  obtain ⟨last, hlast⟩ := Phase.exists_text_andThen
    (command.passAll source settings 1 ((List.range command.passes).map moments)
      (settings.monitor state)) command.finish
  exact ⟨later ++ last, by rw [run, execute, hlast, hlater, String.append_assoc]⟩

end Command

end ResourceHealth
