import ResourceHealth.Command.Report

/-!
# Commands

A command takes a number of samples and reports on them.  It goes on in phases: what a
phase has shown stays shown, also when a later one fails or panics.

Main definitions:

- `Command`: the commands.
- `Command.Phase`: what some part of a command comes to, and `Command.Phase.andThen`.
- `Command.pass`: one sampling pass, with the question for health after it and what is shown.
- `Command.execute`, `Command.run`: a command from beginning to end, and what it shows.

Main results:

- Theorem `Command.Phase.exists_text_andThen`: what a phase has shown is not taken back.
-/

namespace ResourceHealth

/-- What can be asked for on the command line. -/
inductive Command where
  /-- Shows one sample; if `strict`, critical levels are a failure. -/
  | status (strict : Bool)
  /-- Shows samples as they are taken, so many milliseconds apart. -/
  | watch (count interval : Nat)
  /-- Shows the summary of some samples. -/
  | summary (samples : Nat) (json : Bool)
deriving DecidableEq

/-- How a command ends. -/
inductive Ending where
  | done
  | failed (reason : String)
  | panicked (cause : Panic)
deriving DecidableEq

/-- What a command shows and how it ends. -/
structure Showing where
  text : String
  ending : Ending := .done

namespace Command

variable {State World : Type}

/-- How many sampling passes a command makes. -/
def passes : Command → Nat
  | status _ => 1
  | watch count _ => count
  | summary samples _ => samples

/-- How many milliseconds a command waits before each pass but the first. -/
def interval : Command → Nat
  | watch _ interval => interval
  | _ => 0

/-! ## Phases -/

/-- What some part of a command comes to: what it shows, how it ends, the monitor that it
leaves, and what it writes to the log. -/
structure Phase (State : Type) where
  showing : Showing
  monitor : Monitor State
  events : List Event := []

namespace Phase

/-- A phase with the next one behind it; after a failure or a panic there is no next one. -/
def andThen (phase : Phase State) (next : Monitor State → Phase State) : Phase State :=
  match phase.showing.ending with
  | .done =>
    let last := next phase.monitor
    { showing := { last.showing with text := phase.showing.text ++ last.showing.text }
      monitor := last.monitor
      events := phase.events ++ last.events }
  | _ => phase

/-- What a phase has shown is not taken back. -/
theorem exists_text_andThen (phase : Phase State) (next : Monitor State → Phase State) :
    ∃ more, (phase.andThen next).showing.text = phase.showing.text ++ more := by
  unfold andThen
  split
  · exact ⟨_, rfl⟩
  · exact ⟨"", String.append_empty.symm⟩

/-- Behind a phase that is done comes the next one. -/
theorem andThen_of_done {phase : Phase State} (h : phase.showing.ending = .done)
    (next : Monitor State → Phase State) :
    phase.andThen next =
      { showing :=
          { text := phase.showing.text ++ (next phase.monitor).showing.text
            ending := (next phase.monitor).showing.ending }
        monitor := (next phase.monitor).monitor
        events := phase.events ++ (next phase.monitor).events } := by
  rw [andThen, h]

/-- Behind a failure or a panic comes nothing. -/
theorem andThen_of_ne_done {phase : Phase State} (h : phase.showing.ending ≠ .done)
    (next : Monitor State → Phase State) : phase.andThen next = phase := by
  unfold andThen
  split
  · contradiction
  · rfl

end Phase

/-! ## Passes -/

/-- What is shown of a sample with its health right after its pass. -/
def atOnce (command : Command) (settings : Settings) (thresholds : Thresholds) (number : Nat)
    (sample : Sample) (health : Health) : Showing :=
  match command with
  | status strict =>
    { text := Report.ofLines (Report.status settings.diskPath thresholds sample health)
      ending :=
        if strict ∧ health.isAvailable = false then
          .failed ("resources not available: " ++ health.worst.name)
        else .done }
  | watch _ _ => { text := Report.ofLines [Report.watchLine number sample health] }
  | summary _ _ => { text := "" }

/-- One sampling pass.  A status and a watch ask the monitor for health right after it, and
show the sample that the pass has returned with the health that the question has. -/
def pass (source : Source State World) (settings : Settings) (command : Command) (number : Nat)
    (moment : Moment World) (monitor : Monitor State) : Phase State :=
  let taken := monitor.sample source moment
  match taken.answer with
  | .error cause =>
    { showing := { text := "", ending := .panicked cause }
      monitor := taken.state
      events := taken.events }
  | .ok sample =>
    match command with
    | summary _ _ => { showing := { text := "" }, monitor := taken.state, events := taken.events }
    | _ =>
      let asked := taken.state.health source moment
      { showing :=
          match asked.answer with
          | .error cause => { text := "", ending := .panicked cause }
          | .ok health => command.atOnce settings asked.state.thresholds number sample health
        monitor := asked.state
        events := taken.events ++ asked.events }

/-- Sampling passes one after the other, numbered from `number`, at the given moments. -/
def passAll (source : Source State World) (settings : Settings) (command : Command) :
    Nat → List (Moment World) → Monitor State → Phase State
  | _, [], monitor => { showing := { text := "" }, monitor }
  | number, moment :: rest, monitor =>
    (command.pass source settings number moment monitor).andThen
      (passAll source settings command (number + 1) rest)

/-- What is shown after the last pass. -/
def finish (command : Command) (monitor : Monitor State) : Phase State where
  showing :=
    { text :=
        match command, monitor.summary? with
        | status _, _ => ""
        | watch _ _, none => ""
        | watch _ _, some found => Report.ofLines [Report.watchEnd found]
        | summary _ true, found => Report.ofLines [(Report.summaryJson found).text true]
        | summary _ false, found => Report.ofLines (Report.summary found) }
  monitor

/-- A command from beginning to end over a source, with a moment for each pass. -/
def execute (source : Source State World) (settings : Settings) (state : State)
    (moments : Nat → Moment World) (command : Command) : Phase State :=
  let times := (List.range command.passes).map moments
  (command.passAll source settings 1 times (settings.monitor state)).andThen command.finish

/-- What a command shows from beginning to end. -/
def run (source : Source State World) (settings : Settings) (state : State)
    (moments : Nat → Moment World) (command : Command) : Showing :=
  (command.execute source settings state moments).showing

end Command

end ResourceHealth
