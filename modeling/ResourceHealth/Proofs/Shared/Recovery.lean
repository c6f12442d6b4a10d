import ResourceHealth.Proofs.Monitor.Invariant
import ResourceHealth.Proofs.Monitor.Trailing
import ResourceHealth.Shared.Schedule

/-!
# Recovery from panics

A panic under the lock leaves nothing half done: of the monitor only the time of its
sampler may have risen.  So a poisoned lock can be taken as if it were not poisoned, and
a run with panics answers and keeps the same as the run without the operations that panicked, but
for times that may be later.

Main definitions:

- `Shared.withoutPanics`: the operations of a run that do not panic, with what the source
  answered to each.
- `Crowd.withoutPoison`: a crowd whose lock is not poisoned.

Main results:

- Theorem `Shared.eqUpToTime_withoutPanics`: a run agrees up to the timestamp with the run
  without panics.
- Theorem `Crowd.withoutPoison_follow`: no thread can tell that the lock was poisoned.
- Theorem `Shared.panics_leave_nothing_half_done`: both, with what one panic leaves.
-/

namespace ResourceHealth

/-! ## The poisoned lock -/

namespace Shared

variable {State World : Type}

/-- Poisoned or not, a run under the lock is the run of the monitor. -/
theorem run_eq (source : Source State World) (operations : List (Operation × Moment World))
    (shared : Shared State) :
    ((shared.run source operations).map fun outcome =>
      (outcome.answer, outcome.state.monitor, outcome.events)) =
      (shared.monitor.run source operations).map fun outcome =>
        (outcome.answer, outcome.state, outcome.events) := by
  induction operations generalizing shared with
  | nil => rfl
  | cons step rest ih =>
    rw [run, Monitor.run, List.map_cons, List.map_cons, ih, monitor_perform]
    simp [perform]

end Shared

namespace Crowd

variable {State World : Type}

/-- The crowd with a lock that is not poisoned. -/
def withoutPoison (crowd : Crowd State World) : Crowd State World :=
  { crowd with shared := { crowd.shared with poisoned := false } }

/-- Whether the lock is poisoned makes no difference to a move. -/
theorem withoutPoison_move (source : Source State World) (index : Nat) (moment : Moment World)
    (crowd : Crowd State World) :
    (crowd.withoutPoison.move source index moment).map withoutPoison =
      (crowd.move source index moment).map withoutPoison := by
  have hlock : crowd.withoutPoison.shared.lock = crowd.shared.lock := by
    simp only [Shared.lock_eq_monitor]
    rfl
  have hthreads : crowd.withoutPoison.threads = crowd.threads := rfl
  have hholder : crowd.withoutPoison.holder = crowd.holder := rfl
  unfold move
  rw [hthreads, hholder]
  cases crowd.threads[index]? with
  | none => rfl
  | some thread =>
    rcases thread with ⟨pending, stage, answers⟩
    cases pending with
    | nil => rfl
    | cons operation rest =>
      cases stage with
      | outside => cases crowd.holder <;> rfl
      | inside progress =>
        cases progress with
        | ended answer => rfl
        | _ =>
          simp only [proceed, hlock]
          split <;> rfl

/-- Nor does it make one to all that follows. -/
theorem withoutPoison_follow (source : Source State World) (schedule : List (Nat × Moment World))
    (crowd : Crowd State World) :
    (crowd.withoutPoison.follow source schedule).withoutPoison =
      (crowd.follow source schedule).withoutPoison := by
  induction schedule generalizing crowd with
  | nil => rfl
  | cons turn rest ih =>
    have hmove := withoutPoison_move source turn.1 turn.2 crowd
    have hnext :
        ((crowd.withoutPoison.move source turn.1 turn.2).getD crowd.withoutPoison).withoutPoison =
        ((crowd.move source turn.1 turn.2).getD crowd).withoutPoison := by
      cases hleft : crowd.withoutPoison.move source turn.1 turn.2 <;>
        cases hright : crowd.move source turn.1 turn.2 <;>
        rw [hleft, hright] at hmove
      · rfl
      · cases hmove
      · cases hmove
      · exact Option.some.inj hmove
    rw [follow_cons, follow_cons, ← ih, hnext, ih]

end Crowd

/-! ## Runs without the panics -/

namespace Shared

variable {State World : Type}

/-- The operations of a run that do not panic, each with its clock and with the answers that
the source had for it. -/
def withoutPanics (source : Source State World) :
    List (Operation × Moment World) → Shared State → List (Operation × Moment Replies)
  | [], _ => []
  | (operation, moment) :: rest, shared =>
    let outcome := shared.perform source operation moment
    let others := outcome.state.withoutPanics source rest
    match outcome.answer with
    | .ok _ =>
      let replies := source.replies moment.world shared.monitor.sampler.source
      (operation, ⟨moment.clock, replies⟩) :: others
    | .error _ => others

end Shared

/-- Two outcomes that are no panics, the same but for times that may be later. -/
structure Outcome.EqUpToTime {State Other : Type} (late : Outcome (Shared State) Answer)
    (early : Outcome (Shared Other) Answer) : Prop where
  answer : ∃ given wanted, late.answer = .ok given ∧ early.answer = .ok wanted ∧
    given.EqUpToTime wanted
  monitor : late.state.monitor.EqUpToTime early.state.monitor

namespace Shared

variable {State World : Type}

/-- A run agrees up to the timestamp with the run without the operations that panic. -/
theorem eqUpToTime_withoutPanics (source : Source State World)
    (operations : List (Operation × Moment World)) {shared : Shared State}
    {calm : Shared Unit} (h : shared.monitor.EqUpToTime calm.monitor) :
    List.Forall₂ Outcome.EqUpToTime
      ((shared.run source operations).filter fun outcome => outcome.answer.toBool)
      (calm.run Source.replay (shared.withoutPanics source operations)) ∧
      (shared.after source operations).monitor.EqUpToTime
        (calm.after Source.replay (shared.withoutPanics source operations)).monitor := by
  induction operations generalizing shared calm with
  | nil => exact ⟨.nil, h⟩
  | cons step rest ih =>
    obtain ⟨operation, moment⟩ := step
    cases hanswer : (shared.perform source operation moment).answer with
    | error cause =>
      have hpanic : (shared.monitor.perform source operation moment).answer = .error cause := by
        rw [← answer_perform, hanswer]
      have hnext : (shared.perform source operation moment).state.monitor.EqUpToTime
          calm.monitor := by
        rw [monitor_perform]
        exact h.of_panic hpanic
      have hrest := ih hnext
      have hsteps : shared.withoutPanics source ((operation, moment) :: rest) =
          (shared.perform source operation moment).state.withoutPanics source rest := by
        simp only [withoutPanics, hanswer]
      rw [hsteps, run, List.filter_cons_of_neg (by rw [hanswer]; exact Bool.false_ne_true)]
      exact hrest
    | ok answer =>
      let again : Moment Replies :=
        ⟨moment.clock, source.replies moment.world shared.monitor.sampler.source⟩
      have hgiven : (shared.monitor.perform source operation moment).answer = .ok answer := by
        rw [← answer_perform, hanswer]
      have hpass : (source.pass moment.world shared.monitor.sampler.source).1 =
          (Source.replay.pass again.world calm.monitor.sampler.source).1 :=
        (Source.pass_replay source moment.world shared.monitor.sampler.source).symm
      have hclock : moment.clock = again.clock := rfl
      obtain ⟨⟨wanted, hwanted, hupToTime⟩, hstate⟩ := h.perform hclock hpass hgiven
      have houtcome : Outcome.EqUpToTime (shared.perform source operation moment)
          (calm.perform Source.replay operation again) := by
        refine ⟨⟨answer, wanted, hanswer, ?_, hupToTime⟩, ?_⟩
        · rw [answer_perform, hwanted]
        · rw [monitor_perform, monitor_perform]
          exact hstate
      have hrest := ih houtcome.monitor
      have hsteps : shared.withoutPanics source ((operation, moment) :: rest) =
          (operation, again) ::
            (shared.perform source operation moment).state.withoutPanics source rest := by
        simp only [withoutPanics, hanswer, again]
      rw [hsteps, run, run, List.filter_cons_of_pos (by rw [hanswer]; rfl)]
      exact ⟨.cons houtcome hrest.1, hrest.2⟩

/-- Take any run of a shared monitor, with a lock that may be poisoned already.  An operation
panics exactly when it takes a sample, monitoring is enabled and one of the three readings
panics; then the lock is poisoned, and what it still gives is the monitor as it was, but for
its sampler, whose time has not gone back.  All that is done later, in one run or by threads
in any order, is as if the lock were not poisoned.  And the outcomes that are no panics are
those of the run without the operations that panic, with the same readings and the same
clock for the others, up to times that are not earlier. -/
theorem panics_leave_nothing_half_done (source : Source State World) (thresholds : Thresholds)
    (capacity : Nat) (enabled : Bool) (initial : State) (poisoned : Bool)
    (operations : List (Operation × Moment World)) :
    let start : Shared State := ⟨Monitor.start thresholds capacity enabled initial, poisoned⟩
    let calm : Shared Unit := ⟨Monitor.start thresholds capacity enabled (), false⟩
    let shared := start.after source operations
    let withoutPanics := start.withoutPanics source operations
    (∀ operation moment cause,
      let outcome := shared.perform source operation moment
      (outcome.answer = .error cause ↔
        shared.monitor.takes operation = true ∧ shared.monitor.enabled = true ∧
          (source.replies moment.world shared.monitor.sampler.source).PanicsWith cause) ∧
      (outcome.answer = .error cause →
        outcome.state.poisoned = true ∧
          outcome.state.lock =
            { shared.monitor with sampler := outcome.state.monitor.sampler } ∧
          shared.monitor.sampler.lastTimestamp ≤
            outcome.state.monitor.sampler.lastTimestamp)) ∧
      (∀ later,
        (shared.run source later).map
            (fun outcome => (outcome.answer, outcome.state.monitor, outcome.events)) =
          (shared.monitor.run source later).map
            fun outcome => (outcome.answer, outcome.state, outcome.events)) ∧
      (∀ (crowd : Crowd State World) schedule,
        (crowd.withoutPoison.follow source schedule).withoutPoison =
          (crowd.follow source schedule).withoutPoison) ∧
      List.Forall₂ Outcome.EqUpToTime
        ((start.run source operations).filter fun outcome => outcome.answer.toBool)
        (calm.run Source.replay withoutPanics) ∧
      shared.monitor.EqUpToTime (calm.after Source.replay withoutPanics).monitor := by
  intro start calm shared withoutPanics
  have hsound : shared.monitor.Sound := by
    rw [monitor_after]
    exact (Monitor.sound_start thresholds capacity enabled initial).after source operations
  have hstart : start.monitor.EqUpToTime calm.monitor :=
    { thresholds := rfl
      enabled := rfl
      capacity := rfl
      entries := .nil
      time := Binary64.le_refl (Binary64.ne_nan_of_isFinite Binary64.isFinite_zero) }
  obtain ⟨houtcomes, hend⟩ := eqUpToTime_withoutPanics source operations hstart
  refine ⟨fun operation moment cause => ⟨?_, fun hpanic => ?_⟩, ?_, ?_, houtcomes, hend⟩
  · rw [answer_perform, Monitor.answer_perform_eq_error_iff, Source.pass_eq_panic_iff]
  · have hcause := hpanic
    rw [answer_perform] at hcause
    obtain ⟨hstate, htime⟩ := Monitor.perform_of_panic hsound.lastTimestamp_ne_nan hcause
    refine ⟨?_, ?_, ?_⟩
    · rw [poisoned_perform, hcause]
      exact Bool.or_true _
    · rw [lock_eq_monitor, monitor_perform]
      exact hstate
    · rw [monitor_perform]
      exact htime
  · intro later
    exact run_eq source later shared
  · intro crowd schedule
    exact Crowd.withoutPoison_follow source schedule crowd

end Shared

end ResourceHealth
