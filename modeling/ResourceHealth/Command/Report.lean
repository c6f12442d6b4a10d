import ResourceHealth.Command.Bar
import ResourceHealth.Json.Records
import ResourceHealth.Settings

/-!
# Reports

What the commands show of samples.

Main definitions:

- `Report.status`: all there is to show of the newest sample.
- `Report.watchLine`, `Report.watchEnd`: one line a sample, and a last one.
- `Report.summary`, `Report.summaryJson`: the summary as text and as JSON.
-/

namespace ResourceHealth

namespace Report

/-- A text filled up with blanks on the left. -/
def padStart (width : Nat) (text : String) : String :=
  "".pushn ' ' (width - text.length) ++ text

/-- A text filled up with blanks on the right. -/
def padEnd (width : Nat) (text : String) : String :=
  text ++ "".pushn ' ' (width - text.length)

/-- Lines with their ends. -/
def ofLines (lines : List String) : String :=
  String.join (lines.map (· ++ "\n"))

/-! ## Status -/

/-- The heading of a status. -/
def heading : List String := [
  "╔══════════════════════════════════════════════════════╗",
  "║            resmon · System Resource Status           ║",
  "╚══════════════════════════════════════════════════════╝",
  ""]

/-- The line that shows how far a resource is used up. -/
def usageLine (percent : Binary64) (level : Level) : String :=
  "   Usage:        " ++ padStart 5 (percent.fixed 1) ++ "%  " ++
    String.ofList (Bar.draw percent level) ++ "  " ++ level.name

/-- The line that shows the cut-offs of a resource. -/
def cutoffsLine (cutoffs : Cutoffs) : String :=
  "   Thresholds:   " ++ cutoffs.warning.fixed 0 ++ "% / " ++ cutoffs.critical.fixed 0 ++ "%"

/-- The part of a status that says what the levels amount to. -/
def assessment (health : Health) : List String := [
  "  Assessment",
  "   Worst level:  " ++ health.worst.name,
  if health.isAvailable then "   Status:       accepting work"
  else "   Status:       RESOURCE CRITICAL, shed load",
  ""]

/-- All there is to show of a sample. -/
def status (diskPath : Path) (thresholds : Thresholds) (sample : Sample) (health : Health) :
    List String :=
  heading ++ [
    "  CPU",
    usageLine sample.cpu health.cpu,
    cutoffsLine thresholds.cpu,
    "",
    "  Memory",
    usageLine sample.memory health.memory,
    "   Available:    " ++ sample.availableMb.fixed 0 ++ " MB",
    cutoffsLine thresholds.memory,
    "",
    "  Disk (" ++ diskPath.shown ++ ")",
    usageLine sample.disk health.disk,
    cutoffsLine thresholds.disk,
    ""] ++ assessment health ++ [sample.summary]

/-! ## Watch -/

/-- The line of one of several samples. -/
def watchLine (number : Nat) (sample : Sample) (health : Health) : String :=
  "[" ++ padStart 4 (toString number) ++ "] " ++ sample.summary ++
    "  cpu=" ++ health.cpu.name ++ " mem=" ++ health.memory.name ++
    " disk=" ++ health.disk.name

/-- The line after the last of several samples. -/
def watchEnd (summary : Summary) : String :=
  s!"{summary.historySize} samples retained, worst level " ++ summary.health.worst.name

/-! ## Summary -/

/-- A summary as text. -/
def summary : Option Summary → List String
  | none => ["No samples taken."]
  | some summary =>
    ["Latest:        " ++ summary.latest.summary,
      s!"History size:  {summary.historySize}"] ++
    summary.health.byName.map (fun part => "  " ++ padEnd 8 part.1 ++ " " ++ part.2.name) ++
    ["Available:     " ++ if summary.health.isAvailable then "yes" else "no"]

/-- A summary as JSON; without a sample it is an empty object. -/
def summaryJson (summary : Option Summary) : Json :=
  match summary with
  | none => .object []
  | some summary => summary.toJson

end Report

end ResourceHealth
