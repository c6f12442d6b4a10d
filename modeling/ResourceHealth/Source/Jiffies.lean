import ResourceHealth.Counter
import ResourceHealth.Error
import ResourceHealth.Text.Lines

/-!
# Jiffies

The kernel counts the ticks that the processors spent in each state since the
host started.  The line for all processors together gives one counter for each
state; the fourth and the fifth are the idle states.

Main definitions:

- `Jiffies`: idle and total ticks.
- `Jiffies.parse`: read from the kernel's text.

Main results:

- Theorem `Jiffies.parse_of_no_line`: without the line there is nothing to read.
-/

namespace ResourceHealth

/-- The ticks since the host started. -/
structure Jiffies where
  idle : Nat
  total : Nat
deriving DecidableEq

namespace Jiffies

/-- No ticks. -/
def zero : Jiffies := ⟨0, 0⟩

/-- The first word of the line for all processors together. -/
def label : List Char := ['c', 'p', 'u']

/-- How many states have a counter of their own; what follows is counted in them already. -/
def states : Nat := 8

/-- How many counters a line has at least. -/
def leastStates : Nat := 4

/-- Whether a line is the one for all processors together. -/
def isAggregate (line : List Char) : Bool :=
  (words line).head? == some label

/-- The counters of a line, or the first word that is none. -/
def counters (line : List Char) : Except ParseCause (List Nat) :=
  (((words line).drop 1).take states).mapM fun word =>
    match Counter.read? word with
    | some count => .ok count
    | none => .error (.badJiffies word)

/-- The ticks that counters amount to. -/
def ofCounters (counts : List Nat) : Except Panic Jiffies := do
  let idle ← Counter.add (counts.getD 3 0) (counts.getD 4 0)
  let total ← Counter.sum counts
  return ⟨idle, total⟩

/-- Reads the ticks from the text of the source at a path. -/
def parse (path : Path) (text : List Char) : Except Fault Jiffies :=
  match (lines text).find? isAggregate with
  | none => .error (.error (.unparsable path .noProcessorLine))
  | some line =>
    match counters line with
    | .error cause => .error (.error (.unparsable path cause))
    | .ok counts =>
      if counts.length < leastStates then
        .error (.error (.unparsable path (.fewCounters counts.length)))
      else (ofCounters counts).mapError .panic

/-- Without the line there is nothing to read. -/
theorem parse_of_no_line {path : Path} {text : List Char}
    (h : ∀ line ∈ lines text, isAggregate line = false) :
    parse path text = .error (.error (.unparsable path .noProcessorLine)) := by
  have hnone : (lines text).find? isAggregate = none := by
    simpa [List.find?_eq_none] using h
  simp [parse, hnone]

/-- The ticks as a listing of fields. -/
def listed (jiffies : Jiffies) : String :=
  s!"CpuTimes \x7b idle: {jiffies.idle}, total: {jiffies.total} \x7d"

end Jiffies

end ResourceHealth
