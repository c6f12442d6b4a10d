import ResourceHealth.Binary64.Arithmetic
import ResourceHealth.Counter
import ResourceHealth.Source.Text
import ResourceHealth.Text.Lines

/-!
# Memory

The kernel gives the whole and the available memory in kilobytes, each on a line
that starts with its key.

Main definitions:

- `Memory`: the memory in bytes.
- `Memory.parse`: read from the kernel's text.
- `Memory.utilisation`, `Memory.availableMb`, `Memory.totalMb`: its figures.
-/

namespace ResourceHealth

/-- The memory of the host, in bytes. -/
structure Memory where
  total : Nat
  available : Nat
  used : Nat
deriving DecidableEq

/-- The two figures that a reading of the memory gives. -/
structure MemoryReading where
  /-- The share in use, in percent. -/
  percent : Binary64
  /-- The available memory in units of `2 ^ 20` bytes. -/
  availableMb : Binary64
deriving DecidableEq

namespace Memory

/-- The path of the kernel's text about the memory. -/
def standardPath : Path := Path.ofString "/proc/meminfo"

/-- The key of the whole memory. -/
def totalKey : List Char := "MemTotal:".toList

/-- The key of the available memory. -/
def availableKey : List Char := "MemAvailable:".toList

/-- The figures in kilobytes that a scan of lines has found so far. -/
structure Scan where
  total : Option Nat := none
  available : Option Nat := none

/-- A word as a number of kilobytes. -/
def kilobytes (word : List Char) : Except ParseCause Nat :=
  match Counter.read? word with
  | some count => .ok count
  | none => .error (.badKilobytes word)

/-- The scan after one more line.  Only lines of at least two words count, and a key that
comes again replaces the figure found before. -/
def Scan.readLine (scan : Scan) (line : List Char) : Except ParseCause Scan :=
  match words line with
  | key :: word :: _ =>
    if key = totalKey then
      (kilobytes word).map fun count => { scan with total := some count }
    else if key = availableKey then
      (kilobytes word).map fun count => { scan with available := some count }
    else .ok scan
  | _ => .ok scan

/-- The scan after lines, up to the first one by which both figures have been found. -/
def Scan.readLines (scan : Scan) : List (List Char) → Except ParseCause Scan
  | [] => .ok scan
  | line :: rest =>
    match scan.readLine line with
    | .error cause => .error cause
    | .ok now =>
      if now.total.isSome ∧ now.available.isSome then .ok now else now.readLines rest

/-- How many bytes a kilobyte has. -/
def bytesPerKilobyte : Nat := 1024

/-- The memory that two figures in kilobytes amount to; no more is available than there is. -/
def ofKilobytes (total available : Nat) : Except Panic Memory := do
  let totalBytes ← Counter.multiply total bytesPerKilobyte
  let availableBytes ← Counter.multiply available bytesPerKilobyte
  let capped := min availableBytes totalBytes
  return ⟨totalBytes, capped, totalBytes - capped⟩

/-- Reads the memory from the text of the source at a path. -/
def parse (path : Path) (text : List Char) : Except Fault Memory :=
  match Scan.readLines {} (lines text) with
  | .error cause => .error (.error (.unparsable path cause))
  | .ok ⟨none, _⟩ => .error (.error (.unparsable path .noTotalMemory))
  | .ok ⟨some _, none⟩ => .error (.error (.unparsable path .noAvailableMemory))
  | .ok ⟨some total, some available⟩ => (ofKilobytes total available).mapError .panic

/-- Reads the memory on a host. -/
def read (path : Path) (host : Host) : Except Fault Memory :=
  match host.sourceText path with
  | .error cause => .error (.error cause)
  | .ok text => parse path text

/-! ## Figures -/

/-- How many bytes a megabyte has. -/
def bytesPerMegabyte : Nat := 1024 * 1024

/-- The share in use, from zero to one. -/
def utilisation (memory : Memory) : Binary64 :=
  if memory.total = 0 then 0
  else Binary64.ofNat memory.used / Binary64.ofNat memory.total

/-- The available memory in megabytes. -/
def availableMb (memory : Memory) : Binary64 :=
  Binary64.ofNat memory.available / Binary64.ofNat bytesPerMegabyte

/-- The whole memory in megabytes. -/
def totalMb (memory : Memory) : Binary64 :=
  Binary64.ofNat memory.total / Binary64.ofNat bytesPerMegabyte

/-- The two figures of a reading. -/
def reading (memory : Memory) : MemoryReading :=
  ⟨memory.utilisation * 100, memory.availableMb⟩

end Memory

end ResourceHealth
