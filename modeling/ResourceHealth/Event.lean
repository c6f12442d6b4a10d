import ResourceHealth.Error
import ResourceHealth.Sample

/-!
# Events

What a monitor writes to its log.

Main definitions:

- `Event`: the events, and `Event.severity`, `Event.message`.
- `Outcome`: what an operation comes to.
-/

namespace ResourceHealth

/-- How much an event matters. -/
inductive Severity where
  | debug
  | info
  | warn
deriving DecidableEq

/-- The name of a severity. -/
def Severity.name : Severity → String
  | .debug => "DEBUG"
  | .info => "INFO"
  | .warn => "WARN"

/-- Something that is logged. -/
inductive Event where
  /-- A sample was taken. -/
  | sampled (sample : Sample)
  /-- A sample could not be taken. -/
  | failed (cause : MonitorError)
  /-- Monitoring was switched on or off. -/
  | switched (enabled : Bool)
  /-- The capacity of the history was set. -/
  | resized (capacity : Nat)
deriving DecidableEq

namespace Event

/-- How much the event matters. -/
def severity : Event → Severity
  | sampled _ => .debug
  | failed _ => .warn
  | switched _ => .info
  | resized _ => .info

/-- What the log says. -/
def message : Event → String
  | sampled sample => "sampled: " ++ sample.summary
  | failed cause => "resource collection failed, reporting zeros: " ++ cause.message
  | switched enabled =>
    "resource monitoring " ++ if enabled then "enabled" else "disabled"
  | resized capacity => s!"history capacity set to {capacity}"

end Event

/-- What an operation comes to: an answer or a panic, the state that it leaves, and what it
writes to the log. -/
structure Outcome (State Answer : Type) where
  answer : Except Panic Answer
  state : State
  events : List Event := []

end ResourceHealth
