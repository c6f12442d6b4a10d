import ResourceHealth.Monitor

/-!
# Runs

A run carries out operations one after the other, each at a moment of its own.

Main definitions:

- `Operation`, `Answer`: what can be asked of a monitor, and what it answers.
- `Operation.reply`: the answer of an operation that has the newest sample at hand.
- `Monitor.perform`: one operation.
- `Monitor.run`: a run, as the outcomes of its operations.

Main results:

- Theorem `Monitor.after_append`: the state after a run in two parts is that after two runs.
-/

namespace ResourceHealth

/-- What can be asked of a monitor. -/
inductive Operation where
  | sample
  | health
  | available
  | summary
  | setEnabled (enabled : Bool)
  | setThresholds (thresholds : Thresholds)
  | setCapacity (capacity : Nat)
  | clear
deriving DecidableEq

/-- What a monitor answers. -/
inductive Answer where
  | sample (sample : Sample)
  | health (health : Health)
  | available (available : Bool)
  | summary (summary : Option Summary)
  | done
deriving DecidableEq

/-- What an operation answers that has the newest sample at hand. -/
def Operation.reply (operation : Operation) (latest : Sample) (thresholds : Thresholds) :
    Answer :=
  match operation with
  | .health => .health (Health.classify latest thresholds)
  | .available => .available (Health.classify latest thresholds).isAvailable
  | _ => .sample latest

namespace Outcome

variable {State Given Wanted : Type}

/-- The outcome with its answer put in another form. -/
def map (f : Given → Wanted) (outcome : Outcome State Given) : Outcome State Wanted where
  answer := outcome.answer.map f
  state := outcome.state
  events := outcome.events

end Outcome

namespace Monitor

variable {State World : Type}

/-- Carries out one operation. -/
def perform (source : Source State World) (operation : Operation) (moment : Moment World)
    (monitor : Monitor State) : Outcome (Monitor State) Answer :=
  match operation with
  | .sample => (monitor.sample source moment).map .sample
  | .health => (monitor.health source moment).map .health
  | .available => (monitor.available source moment).map .available
  | .summary => { answer := .ok (.summary monitor.summary?), state := monitor }
  | .setEnabled enabled => (monitor.setEnabled enabled).map fun _ => .done
  | .setThresholds thresholds => (monitor.setThresholds thresholds).map fun _ => .done
  | .setCapacity capacity => (monitor.setCapacity capacity).map fun _ => .done
  | .clear => monitor.clear.map fun _ => .done

/-- The outcomes of operations carried out one after the other. -/
def run (source : Source State World) :
    List (Operation × Moment World) → Monitor State →
      List (Outcome (Monitor State) Answer)
  | [], _ => []
  | (operation, moment) :: rest, monitor =>
    let outcome := monitor.perform source operation moment
    outcome :: outcome.state.run source rest

/-- The state that a run leaves. -/
def after (source : Source State World) (operations : List (Operation × Moment World))
    (monitor : Monitor State) : Monitor State :=
  operations.foldl (fun current step => (current.perform source step.1 step.2).state) monitor

@[simp]
theorem after_nil (source : Source State World) (monitor : Monitor State) :
    monitor.after source [] = monitor :=
  rfl

@[simp]
theorem after_cons (source : Source State World) (step : Operation × Moment World)
    (rest : List (Operation × Moment World)) (monitor : Monitor State) :
    monitor.after source (step :: rest) =
      (monitor.perform source step.1 step.2).state.after source rest :=
  rfl

/-- The state that a run in two parts leaves is what the second leaves of the first. -/
theorem after_append (source : Source State World)
    (first second : List (Operation × Moment World)) (monitor : Monitor State) :
    monitor.after source (first ++ second) =
      (monitor.after source first).after source second := by
  induction first generalizing monitor with
  | nil => rfl
  | cons step rest ih =>
    rw [List.cons_append, after_cons, after_cons]
    exact ih _

end Monitor

end ResourceHealth
