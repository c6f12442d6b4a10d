import ResourceHealth.Monitor.Run

/-!
# Shared monitors

A monitor that many threads use stands behind a lock.  A panic while the lock is
held poisons it; the next user takes the lock all the same, because no operation
leaves the monitor half changed.

Main definitions:

- `Shared`: a monitor behind a lock.
- `Shared.take`, `Shared.lock`: taking the lock, and recovering it when it is poisoned.
- `Shared.perform`: an operation under the lock.
- `Shared.run`, `Shared.after`: operations one after the other.
- `Shared.poison`: a panic under the lock that touches nothing.

Main results:

- Theorem `Shared.monitor_perform`: what a poisoned lock guards is used as if it were not
  poisoned.
- Theorem `Shared.monitor_after`: so is it in a run.
-/

namespace ResourceHealth

/-- A monitor behind a lock. -/
structure Shared (State : Type) where
  monitor : Monitor State
  /-- Whether a panic happened while the lock was held. -/
  poisoned : Bool := false

namespace Shared

variable {State World : Type}

/-- What taking the lock gives: the monitor, as an error when the lock is poisoned. -/
def take (shared : Shared State) : Except (Monitor State) (Monitor State) :=
  if shared.poisoned then .error shared.monitor else .ok shared.monitor

/-- Takes the lock; from a poisoned lock the monitor is recovered. -/
def lock (shared : Shared State) : Monitor State :=
  match shared.take with
  | .ok monitor => monitor
  | .error monitor => monitor

/-- Carries out an operation under the lock; a panic poisons the lock. -/
def perform (source : Source State World) (operation : Operation) (moment : Moment World)
    (shared : Shared State) : Outcome (Shared State) Answer :=
  let outcome := shared.lock.perform source operation moment
  { answer := outcome.answer
    state := ⟨outcome.state, shared.poisoned || !outcome.answer.toBool⟩
    events := outcome.events }

/-- The outcomes of operations carried out one after the other, by whichever threads. -/
def run (source : Source State World) :
    List (Operation × Moment World) → Shared State → List (Outcome (Shared State) Answer)
  | [], _ => []
  | (operation, moment) :: rest, shared =>
    let outcome := shared.perform source operation moment
    outcome :: outcome.state.run source rest

/-- The state that a run leaves. -/
def after (source : Source State World) (operations : List (Operation × Moment World))
    (shared : Shared State) : Shared State :=
  operations.foldl (fun current step => (current.perform source step.1 step.2).state) shared

/-- A thread panics while it holds the lock, without touching the monitor. -/
def poison (shared : Shared State) : Shared State :=
  { shared with poisoned := true }

/-- Poisoned or not, the lock gives the monitor that it guards. -/
@[simp]
theorem lock_eq_monitor (shared : Shared State) : shared.lock = shared.monitor := by
  unfold lock take
  cases shared.poisoned <;> rfl

/-- What a poisoned lock guards is used as if it were not poisoned. -/
@[simp]
theorem monitor_perform (source : Source State World) (operation : Operation)
    (moment : Moment World) (shared : Shared State) :
    (shared.perform source operation moment).state.monitor =
      (shared.monitor.perform source operation moment).state := by
  simp [perform]

/-- The answers too are those of the monitor. -/
@[simp]
theorem answer_perform (source : Source State World) (operation : Operation)
    (moment : Moment World) (shared : Shared State) :
    (shared.perform source operation moment).answer =
      (shared.monitor.perform source operation moment).answer := by
  simp [perform]

/-- The lock is poisoned afterwards if it was before or the operation panics. -/
@[simp]
theorem poisoned_perform (source : Source State World) (operation : Operation)
    (moment : Moment World) (shared : Shared State) :
    (shared.perform source operation moment).state.poisoned =
      (shared.poisoned || !(shared.monitor.perform source operation moment).answer.toBool) := by
  simp [perform]

@[simp]
theorem after_nil (source : Source State World) (shared : Shared State) :
    shared.after source [] = shared :=
  rfl

@[simp]
theorem after_cons (source : Source State World) (step : Operation × Moment World)
    (rest : List (Operation × Moment World)) (shared : Shared State) :
    shared.after source (step :: rest) =
      (shared.perform source step.1 step.2).state.after source rest :=
  rfl

/-- A run under the lock leaves the monitor that the run leaves without one. -/
@[simp]
theorem monitor_after (source : Source State World)
    (operations : List (Operation × Moment World)) (shared : Shared State) :
    (shared.after source operations).monitor = shared.monitor.after source operations := by
  induction operations generalizing shared with
  | nil => rfl
  | cons step rest ih => rw [after_cons, ih, monitor_perform, Monitor.after_cons]

end Shared

end ResourceHealth
