import ResourceHealth.Health
import ResourceHealth.History
import ResourceHealth.Sampler

/-!
# Monitors

A monitor samples a source, keeps the recent samples and answers how the host is
doing.  Questions about health look at the newest sample and take one only if
there is none.

Main definitions:

- `Monitor`: thresholds, history, switch and sampler.
- `Monitor.sample`, `Monitor.samples`: taking samples.
- `Monitor.health`, `Monitor.available`: questions that may take a sample.
- `Monitor.summary?`: a question that never does.
- `Monitor.setEnabled`, `Monitor.setCapacity`, `Monitor.clear`: the other operations.

Main results:

- Theorem `Monitor.health_of_latest`: with a sample at hand, asking for health changes
  nothing.
-/

namespace ResourceHealth

/-- What is kept from one operation to the next. -/
structure Monitor (State : Type) where
  thresholds : Thresholds
  history : History Sample
  enabled : Bool
  sampler : Sampler State

/-- The newest sample with its health and the length of the history. -/
structure Summary where
  latest : Sample
  historySize : Nat
  health : Health
deriving DecidableEq

namespace Monitor

variable {State World : Type}

/-- A monitor that has taken no sample. -/
def start (thresholds : Thresholds) (capacity : Nat) (enabled : Bool) (source : State) :
    Monitor State where
  thresholds
  history := History.empty capacity
  enabled
  sampler := { source }

/-! ## Taking samples -/

/-- Takes a sample and keeps it. -/
def sample (source : Source State World) (moment : Moment World) (monitor : Monitor State) :
    Outcome (Monitor State) Sample :=
  let outcome := monitor.sampler.sample source monitor.enabled moment
  match outcome.answer with
  | .ok sample =>
    { answer := .ok sample
      state :=
        { monitor with sampler := outcome.state, history := monitor.history.push sample }
      events := outcome.events }
  | .error cause =>
    { answer := .error cause
      state := { monitor with sampler := outcome.state }
      events := outcome.events }

/-- Takes a sample at each of some moments, up to the first panic. -/
def samples (source : Source State World) :
    List (Moment World) → Monitor State → Outcome (Monitor State) (List Sample)
  | [], monitor => { answer := .ok [], state := monitor }
  | moment :: rest, monitor =>
    let outcome := monitor.sample source moment
    match outcome.answer with
    | .error cause =>
      { answer := .error cause, state := outcome.state, events := outcome.events }
    | .ok sample =>
      let others := outcome.state.samples source rest
      { answer := others.answer.map (sample :: ·)
        state := others.state
        events := outcome.events ++ others.events }

/-! ## Questions -/

/-- The health of the newest sample; one is taken if there is none. -/
def health (source : Source State World) (moment : Moment World) (monitor : Monitor State) :
    Outcome (Monitor State) Health :=
  match monitor.history.latest? with
  | some latest =>
    { answer := .ok (Health.classify latest monitor.thresholds), state := monitor }
  | none =>
    let outcome := monitor.sample source moment
    { answer := outcome.answer.map (Health.classify · monitor.thresholds)
      state := outcome.state
      events := outcome.events }

/-- Whether work may be taken on, by the health of the newest sample. -/
def available (source : Source State World) (moment : Moment World)
    (monitor : Monitor State) : Outcome (Monitor State) Bool :=
  let outcome := monitor.health source moment
  { answer := outcome.answer.map Health.isAvailable
    state := outcome.state
    events := outcome.events }

/-- The newest sample, its health and the length of the history, if there is a sample. -/
def summary? (monitor : Monitor State) : Option Summary :=
  monitor.history.latest?.map fun latest =>
    { latest
      historySize := monitor.history.length
      health := Health.classify latest monitor.thresholds }

/-- With a sample at hand, asking for health changes nothing. -/
theorem health_of_latest {source : Source State World} {moment : Moment World}
    {monitor : Monitor State} {latest : Sample}
    (h : monitor.history.latest? = some latest) :
    monitor.health source moment =
      { answer := .ok (Health.classify latest monitor.thresholds), state := monitor } := by
  simp [health, h]

/-! ## Other operations -/

/-- Switches monitoring on or off; only a change is logged. -/
def setEnabled (enabled : Bool) (monitor : Monitor State) : Outcome (Monitor State) Unit where
  answer := .ok ()
  state := { monitor with enabled }
  events := if enabled = monitor.enabled then [] else [.switched enabled]

/-- Sets the thresholds. -/
def setThresholds (thresholds : Thresholds) (monitor : Monitor State) :
    Outcome (Monitor State) Unit where
  answer := .ok ()
  state := { monitor with thresholds }

/-- Sets the capacity of the history. -/
def setCapacity (capacity : Nat) (monitor : Monitor State) : Outcome (Monitor State) Unit :=
  let history := monitor.history.setCapacity capacity
  { answer := .ok ()
    state := { monitor with history }
    events := [.resized history.capacity] }

/-- Drops all kept samples. -/
def clear (monitor : Monitor State) : Outcome (Monitor State) Unit where
  answer := .ok ()
  state := { monitor with history := monitor.history.clear }

/-- The monitor as a listing of fields. -/
def listed (monitor : Monitor State) : String :=
  listing "ResourceMonitor"
    [("thresholds", monitor.thresholds.listed),
      ("history_len", toString monitor.history.length),
      ("max_history", toString monitor.history.capacity),
      ("monitoring_enabled", toString monitor.enabled)] [".."]

end Monitor

end ResourceHealth
