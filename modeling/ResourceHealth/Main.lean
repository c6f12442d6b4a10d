import ResourceHealth.Command.Program
import ResourceHealth.Source.Clock

/-!
# The command line

The thin layer that reads the host and writes to the terminal.  What is read and
written is decided elsewhere.

Main definitions:

- `Terminal.survey`: what some files of the host hold now.
- `Terminal.follow`: a command, pass by pass.
- `main`: the program.
-/

namespace ResourceHealth

namespace Terminal

/-- A number of the operating system, which an error may carry with a minus sign as 32 bits. -/
def numbered (number : UInt32) : SystemError :=
  if number.toNat < Nat.pow 2 31 then .numbered number.toNat
  else .numbered (Nat.pow 2 32 - number.toNat)

/-- The number of the operating system in an error. -/
def refusal : IO.Error → SystemError
  | .alreadyExists _ number _ => numbered number
  | .otherError number _ => numbered number
  | .resourceBusy number _ => numbered number
  | .resourceVanished number _ => numbered number
  | .unsupportedOperation number _ => numbered number
  | .hardwareFault number _ => numbered number
  | .unsatisfiedConstraints number _ => numbered number
  | .illegalOperation number _ => numbered number
  | .protocolError number _ => numbered number
  | .timeExpired number _ => numbered number
  | .interrupted _ number _ => numbered number
  | .noFileOrDirectory _ number _ => numbered number
  | .invalidArgument _ number _ => numbered number
  | .permissionDenied _ number _ => numbered number
  | .resourceExhausted _ number _ => numbered number
  | .inappropriateType _ number _ => numbered number
  | .noSuchThing _ number _ => numbered number
  | .unexpectedEof => .notText
  | .userError _ => .notText

/-- What a file holds now. -/
def read (path : Path) : IO (Except SystemError (List UInt8)) := do
  if path.hasNul then return .error .nulInName
  match path.text? with
  | none => return .error .noSuchFile
  | some text =>
    try
      let octets ← IO.FS.readBinFile (String.ofList text)
      return .ok octets.toList
    catch error => return .error (refusal error)

/-- The number of the operating system for what it does not do. -/
def notImplemented : SystemError := .numbered 38

/-- What some files of the host hold now.  Figures of file systems cannot be had here. -/
def survey (paths : List Path) : IO Host := do
  let found ← paths.mapM fun path => do return (path, ← read path)
  return {
    present := fun path =>
      match found.lookup path with
      | some (.ok _) => true
      | some (.error refusal) => refusal = .isDirectory
      | none => false
    read := fun path => (found.lookup path).getD (.error .noSuchFile)
    fileSystem := fun _ => .error notImplemented }

/-- The text of a file, empty if there is none. -/
def textOf (host : Host) (path : Path) : List Char :=
  match host.text path with
  | .ok text => text
  | .error _ => []

/-- The present moment. -/
def moment : IO (Moment Host) := do
  let host ← survey [ProcessorMeter.standardPath, Memory.standardPath, Clock.upTimePath]
  return {
    clock := Clock.now (textOf host ProcessorMeter.standardPath) (textOf host Clock.upTimePath)
    world := host }

/-- The events that are shown at a verbosity. -/
def shows (verbosity : Nat) (event : Event) : Bool :=
  match event.severity with
  | .warn => true
  | .info => 1 ≤ verbosity
  | .debug => 2 ≤ verbosity

/-- Writes events to the log. -/
def log (verbosity : Nat) (events : List Event) : IO Unit :=
  (events.filter (shows verbosity)).forM fun event =>
    IO.eprintln (event.severity.name ++ " " ++ event.message)

/-- Shows a phase; the exit code if it is the last one. -/
def showPhase (verbosity : Nat) {State : Type} (phase : Command.Phase State) :
    IO (Option UInt32) := do
  log verbosity phase.events
  let exit := Program.exit phase.showing
  IO.print exit.output
  IO.eprint exit.errors
  return if phase.showing.ending = .done then none else some exit.code.toUInt32

/-- A command, pass by pass; the exit code. -/
def follow (verbosity : Nat) (settings : Settings) (command : Command) : IO UInt32 := do
  let mut monitor := settings.monitor settings.hostMeter
  for index in [0:command.passes] do
    if 0 < index then IO.sleep command.interval.toUInt32
    let phase := command.pass Source.host settings (index + 1) (← moment) monitor
    if let some code ← showPhase verbosity phase then return code
    monitor := phase.monitor
  return (← showPhase verbosity (command.finish monitor)).getD 0

end Terminal

end ResourceHealth

open ResourceHealth in
/-- The program. -/
def main (arguments : List String) : IO UInt32 := do
  match Arguments.parse (arguments.map String.toList) with
  | .refused =>
    IO.eprint Program.usage
    return 2
  | .version =>
    IO.print Program.version
    return 0
  | .help =>
    IO.print Program.usage
    return 0
  | .run config verbosity command =>
    let host ← Terminal.survey config.toList
    match Program.settings host config with
    | .error cause =>
      IO.eprint (Program.failure cause.message)
      return 1
    | .ok settings => Terminal.follow verbosity settings command
