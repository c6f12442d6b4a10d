import ResourceHealth.Binary64.Decimal
import ResourceHealth.Counter
import ResourceHealth.Files.Path
import ResourceHealth.Text.Lines

/-!
# The clock of the kernel

The kernel gives when the host started, among its ticks, and how long it has been
up.  Together they give the time.

Main definitions:

- `Clock.bootTime?`: when the host started, in whole seconds.
- `Clock.upTime?`: how long it has been up, in seconds with a fraction.
- `Clock.now`: the time.
-/

namespace ResourceHealth

namespace Clock

/-- The path of the kernel's text about how long the host has been up. -/
def upTimePath : Path := Path.ofString "/proc/uptime"

/-- When the host started: the second word of the line for it. -/
def bootTime? (text : List Char) : Option Nat :=
  (lines text).findSome? fun line =>
    match words line with
    | label :: word :: _ => if label = "btime".toList then Counter.read? word else none
    | _ => none

/-- How long the host has been up: the first word, digits with a point between them. -/
def upTime? (text : List Char) : Option Decimal :=
  match words text with
  | word :: _ =>
    let whole := word.takeWhile Char.isDigit
    let fraction := (word.dropWhile Char.isDigit).drop 1
    if whole ≠ [] ∧ fraction.all Char.isDigit then
      some ⟨Counter.ofDigits (whole ++ fraction), -fraction.length⟩
    else none
  | [] => none

/-- A number of seconds and a decimal whose exponent is not positive, added up. -/
def addSeconds (seconds : Nat) (more : Decimal) : Decimal :=
  ⟨seconds * Nat.pow 10 more.exponent.natAbs + more.coefficient, more.exponent⟩

/-- The time, in seconds; zero if the kernel does not give it. -/
def now (ticksText upTimeText : List Char) : Binary64 :=
  match bootTime? ticksText, upTime? upTimeText with
  | some start, some elapsed => (addSeconds start elapsed).toBinary64 false
  | _, _ => 0

end Clock

end ResourceHealth
