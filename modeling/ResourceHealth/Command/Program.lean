import ResourceHealth.Command.Arguments
import ResourceHealth.Settings.Toml

/-!
# The program

From the words of a command line to what is shown and the exit code.

Main definitions:

- `Exit`: what a program leaves.
- `Program.settings`: the settings that a request wants.
- `Program.run`: the whole program on a host.
-/

namespace ResourceHealth

/-- What a program leaves: its exit code and what it wrote. -/
structure Exit where
  code : Nat
  output : String := ""
  errors : String := ""
  /-- The error that kept the command from being started. -/
  hindrance : Option MonitorError := none
deriving DecidableEq

namespace Program

/-- The line with the version. -/
def version : String := "resmon 0.1.0\n"

/-- How the program is used. -/
def usage : String :=
  "Usage: resmon [OPTIONS] <status|watch|summary>\n"

/-- The line about a failure. -/
def failure (reason : String) : String :=
  "Error: " ++ reason ++ "\n"

/-- The settings that are wanted: from a file if one is named, else the standard ones. -/
def settings (host : Host) (config : Option Path) : Except MonitorError Settings :=
  match config with
  | none => .ok Settings.standard
  | some path => (Settings.ofFile host path).mapError .settings

/-- The exit that an ending comes to. -/
def exit (showing : Showing) : Exit :=
  match showing.ending with
  | .done => { code := 0, output := showing.text }
  | .failed reason => { code := 1, output := showing.text, errors := failure reason }
  | .panicked cause => { code := 101, output := showing.text, errors := failure cause.message }

/-- The whole program on a host, with a moment for each sampling pass. -/
def run (host : Host) (moments : Nat → Moment Host) (arguments : List String) : Exit :=
  match Arguments.parse (arguments.map String.toList) with
  | .refused => { code := 2, errors := usage }
  | .version => { code := 0, output := version }
  | .help => { code := 0, output := usage }
  | .run config _ command =>
    match settings host config with
    | .error cause =>
      { code := 1, errors := failure cause.message, hindrance := some cause }
    | .ok chosen => exit (command.run Source.host chosen chosen.hostMeter moments)

end Program

end ResourceHealth
