import Mathlib
import ResourceHealth.Files.Tree
import ResourceHealth.Proofs.Counter
import ResourceHealth.Proofs.Monitor.Trailing
import ResourceHealth.Source.Host

/-!
# When the readings of a host overflow

The readings of the host are made of 64-bit counters.  The figures of the file system stay
at the greatest counter when they are too large, but those of the processor and of the
memory are added and multiplied without such a guard.  This module says exactly which texts
of the kernel make a reading panic, and so when a monitor of the host has a sample.

Main definitions:

- `Jiffies.Overflows`, `Memory.Overflows`: the texts whose figures are too large.
- `Host.TicksOverflow`, `Host.MemoryOverflows`: the hosts with such texts.
- `Tree.kernel`: a tree of files with the two texts of the kernel.

Main results:

- Theorem `Jiffies.parse_eq_panic_iff`, `Memory.parse_eq_panic_iff`: exactly these texts
  panic.
- Theorem `Monitor.samples_host_unless_overflow`: a monitor of the host has a sample unless
  one of the two texts overflows.
- Theorem `Monitor.sampling_host_can_panic`: there are such texts.
-/

namespace ResourceHealth

/-- A panic stays a panic among the faults. -/
theorem Fault.mapError_eq_panic_iff {Answer : Type} {result : Except Panic Answer}
    {cause : Panic} :
    result.mapError Fault.panic = .error (.panic cause) ↔ result = .error cause := by
  cases result <;> simp [Except.mapError]

/-! ## The processor -/

namespace Jiffies

variable {path : Path} {text : List Char} {cause : Panic}

/-- The line for all processors has enough counters, and they do not add up to one. -/
def Overflows (text : List Char) : Prop :=
  ∃ line counts, (lines text).find? isAggregate = some line ∧ counters line = .ok counts ∧
    leastStates ≤ counts.length ∧ Counter.limit ≤ counts.sum

/-- The idle ticks are part of all ticks. -/
theorem idle_le_sum (counts : List Nat) :
    counts.getD 3 0 + counts.getD 4 0 ≤ counts.sum := by
  rcases counts with _ | ⟨a, _ | ⟨b, _ | ⟨c, _ | ⟨d, _ | ⟨e, rest⟩⟩⟩⟩⟩ <;>
    simp only [List.getD_nil, List.getD_cons_succ, List.getD_cons_zero, List.sum_cons,
      List.sum_nil] <;> omega

/-- That the idle ticks are added up first makes no difference: they overflow only if all
ticks do, and the panic is the same. -/
theorem ofCounters_eq (counts : List Nat) :
    ofCounters counts =
      if counts.sum < Counter.limit then
        .ok ⟨counts.getD 3 0 + counts.getD 4 0, counts.sum⟩
      else .error .addOverflow := by
  have hle := idle_le_sum counts
  unfold ofCounters
  rw [Counter.sum_eq]
  by_cases hsum : counts.sum < Counter.limit
  · have hidle : Counter.add (counts.getD 3 0) (counts.getD 4 0) =
        .ok (counts.getD 3 0 + counts.getD 4 0) := if_pos (Nat.lt_of_le_of_lt hle hsum)
    rw [hidle, if_pos hsum, if_pos hsum]
    rfl
  · rw [if_neg hsum, if_neg hsum]
    unfold Counter.add
    split <;> rfl

/-- Counters make up no ticks exactly where their sum is no counter. -/
theorem ofCounters_eq_error_iff {counts : List Nat} :
    ofCounters counts = .error cause ↔ cause = .addOverflow ∧ Counter.limit ≤ counts.sum := by
  rw [ofCounters_eq]
  by_cases hsum : counts.sum < Counter.limit
  · simp [hsum]
  · simp [hsum, Nat.not_lt.mp hsum, eq_comm]

/-- Reading the ticks panics exactly when they overflow. -/
theorem parse_eq_panic_iff :
    parse path text = .error (.panic cause) ↔ cause = .addOverflow ∧ Overflows text := by
  unfold parse Overflows
  cases hline : (lines text).find? isAggregate with
  | none => simp
  | some line =>
    cases hcounts : counters line with
    | error reason => simp [hcounts]
    | ok counts =>
      by_cases hfew : counts.length < leastStates
      · simp [hcounts, hfew]
      · simp [hcounts, hfew, Fault.mapError_eq_panic_iff, ofCounters_eq_error_iff,
          Nat.not_lt.mp hfew]

end Jiffies

/-- The ticks in a host's file at a path overflow. -/
def Host.TicksOverflow (host : Host) (path : Path) : Prop :=
  ∃ text, host.sourceText path = .ok text ∧ Jiffies.Overflows text

/-- A reading of the processor panics exactly when the ticks overflow. -/
theorem ProcessorMeter.read_eq_panic_iff {host : Host} {meter : ProcessorMeter}
    {cause : Panic} :
    (meter.read host).1 = .error (.panic cause) ↔
      cause = .addOverflow ∧ host.TicksOverflow meter.path := by
  unfold read ticks Host.TicksOverflow
  cases htext : host.sourceText meter.path with
  | error reason => simp
  | ok text =>
    have hparse : Jiffies.parse meter.path text = .error (.panic cause) ↔
        cause = .addOverflow ∧ Jiffies.Overflows text := Jiffies.parse_eq_panic_iff
    rcases h : Jiffies.parse meter.path text with fault | now <;> simpa [h] using hparse

/-! ## The memory -/

namespace Memory

variable {path : Path} {text : List Char} {cause : Panic}

/-- Both figures are given, and one of them in bytes is no counter. -/
def Overflows (text : List Char) : Prop :=
  ∃ total available, Scan.readLines {} (lines text) = .ok ⟨some total, some available⟩ ∧
    (Counter.limit ≤ total * bytesPerKilobyte ∨ Counter.limit ≤ available * bytesPerKilobyte)

/-- Both figures have to be counters of bytes: that what is available is capped by the whole
does not help, for the cap comes too late. -/
theorem ofKilobytes_eq (total available : Nat) :
    ofKilobytes total available =
      if total * bytesPerKilobyte < Counter.limit ∧
          available * bytesPerKilobyte < Counter.limit then
        .ok
          { total := total * bytesPerKilobyte
            available := min (available * bytesPerKilobyte) (total * bytesPerKilobyte)
            used := total * bytesPerKilobyte -
              min (available * bytesPerKilobyte) (total * bytesPerKilobyte) }
      else .error .multiplyOverflow := by
  unfold ofKilobytes Counter.multiply
  by_cases htotal : total * bytesPerKilobyte < Counter.limit
  · by_cases havailable : available * bytesPerKilobyte < Counter.limit
    · simp [htotal, havailable, bind, Except.bind, pure, Except.pure]
    · simp [htotal, havailable, bind, Except.bind]
  · simp [htotal, bind, Except.bind]

/-- Kilobytes make up no memory exactly where one of the figures in bytes is no counter. -/
theorem ofKilobytes_eq_error_iff {total available : Nat} :
    ofKilobytes total available = .error cause ↔
      cause = .multiplyOverflow ∧
        (Counter.limit ≤ total * bytesPerKilobyte ∨
          Counter.limit ≤ available * bytesPerKilobyte) := by
  rw [ofKilobytes_eq, ← Nat.not_lt, ← Nat.not_lt, ← not_and_or]
  split
  · rename_i hcounters
    simp [hcounters]
  · rename_i hlarge
    simp [hlarge, eq_comm]

/-- Reading the memory panics exactly when one of its figures overflows. -/
theorem parse_eq_panic_iff :
    parse path text = .error (.panic cause) ↔ cause = .multiplyOverflow ∧ Overflows text := by
  unfold parse Overflows
  rcases Scan.readLines {} (lines text) with reason | ⟨_ | total, _ | available⟩
  · simp
  · simp
  · simp
  · simp
  · simp [Fault.mapError_eq_panic_iff, ofKilobytes_eq_error_iff]

end Memory

/-- The memory in a host's file at a path overflows. -/
def Host.MemoryOverflows (host : Host) (path : Path) : Prop :=
  ∃ text, host.sourceText path = .ok text ∧ Memory.Overflows text

/-- Reading the memory panics exactly where the file gives a figure that overflows in bytes. -/
theorem Memory.read_eq_panic_iff {host : Host} {path : Path} {cause : Panic} :
    Memory.read path host = .error (.panic cause) ↔
      cause = .multiplyOverflow ∧ host.MemoryOverflows path := by
  unfold read Host.MemoryOverflows
  cases htext : host.sourceText path with
  | error reason => simp
  | ok text => simp [parse_eq_panic_iff]

/-! ## The host -/

namespace Source

variable {host : Host} {meter : HostMeter} {cause : Panic}

/-- A pass over the host panics exactly when the ticks overflow, or when they can be read and
the memory overflows. -/
theorem host_pass_eq_panic_iff :
    (Source.host.pass host meter).1 = .error (.panic cause) ↔
      cause = .addOverflow ∧ host.TicksOverflow meter.processor.path ∨
        (∃ percent, (meter.processor.read host).1 = .ok percent) ∧
          cause = .multiplyOverflow ∧ host.MemoryOverflows Memory.standardPath := by
  rw [pass_eq_panic_iff, Replies.PanicsWith, ← ProcessorMeter.read_eq_panic_iff,
    ← Memory.read_eq_panic_iff]
  simp only [replies, Source.host]
  cases (meter.processor.read host).1 with
  | error fault => simp
  | ok percent =>
    cases Memory.read Memory.standardPath host <;>
      cases Volume.read meter.diskPath host <;> simp [Except.map, Except.mapError]

end Source

namespace Monitor

/-- A monitor of the host, whatever it has been through.  A reading of the processor panics
exactly when the ticks overflow, one of the memory exactly when its figures do, and one of the
file system never.  So there is a sample unless monitoring is enabled and the ticks overflow,
or can be read and the memory overflows; it has the readings if all three were made, and
zeros if one of them failed. -/
theorem samples_host_unless_overflow (monitor : Monitor HostMeter) (moment : Moment Host) :
    let host := moment.world
    let meter := monitor.sampler.source
    let time := monitor.sampler.nextTimestamp moment.clock
    let answer := (monitor.sample Source.host moment).answer
    (∀ cause, (Source.host.cpu host meter).1 = .error (.panic cause) ↔
        cause = .addOverflow ∧ host.TicksOverflow meter.processor.path) ∧
      (∀ cause, (Source.host.memory host meter).1 = .error (.panic cause) ↔
        cause = .multiplyOverflow ∧ host.MemoryOverflows Memory.standardPath) ∧
      (∀ cause, (Source.host.disk host meter).1 ≠ .error (.panic cause)) ∧
      ((∃ sample, answer = .ok sample) ↔
        ¬ (monitor.enabled = true ∧
          (host.TicksOverflow meter.processor.path ∨
            (∃ percent, (Source.host.cpu host meter).1 = .ok percent) ∧
              host.MemoryOverflows Memory.standardPath))) ∧
      (∀ readings, monitor.enabled = true → (Source.host.pass host meter).1 = .ok readings →
        answer = .ok (Sample.ofReadings readings time)) ∧
      ∀ error, (Source.host.pass host meter).1 = .error (.error error) →
        answer = .ok (Sample.zeroed time) := by
  intro host meter time answer
  have hanswer : answer = Sample.ofPass monitor.enabled (Source.host.pass host meter).1 time := by
    rw [← Sampler.answer_sample]
    exact answer_sample _ _ _
  refine ⟨fun cause => ProcessorMeter.read_eq_panic_iff, fun cause => ?_, fun cause => ?_, ?_,
    fun readings henabled hpass => ?_, fun error hpass => ?_⟩
  · rw [← Memory.read_eq_panic_iff]
    simp only [Source.host]
    cases Memory.read Memory.standardPath host <;> simp [Except.map]
  · simp only [Source.host]
    cases Volume.read meter.diskPath host <;> simp [Except.map, Except.mapError]
  · have hpanic : (∃ cause, answer = .error cause) ↔
        monitor.enabled = true ∧
          (host.TicksOverflow meter.processor.path ∨
            (∃ percent, (Source.host.cpu host meter).1 = .ok percent) ∧
              host.MemoryOverflows Memory.standardPath) := by
      simp only [hanswer, Sample.ofPass_eq_error_iff, Source.host_pass_eq_panic_iff]
      constructor
      · rintro ⟨cause, henabled, ⟨-, hticks⟩ | ⟨hread, -, hmemory⟩⟩
        · exact ⟨henabled, Or.inl hticks⟩
        · exact ⟨henabled, Or.inr ⟨hread, hmemory⟩⟩
      · rintro ⟨henabled, hticks | ⟨hread, hmemory⟩⟩
        · exact ⟨_, henabled, Or.inl ⟨rfl, hticks⟩⟩
        · exact ⟨_, henabled, Or.inr ⟨hread, rfl, hmemory⟩⟩
    rw [← hpanic]
    cases answer <;> simp
  · rw [hanswer, henabled, hpass]
    rfl
  · rw [hanswer, hpass]
    cases monitor.enabled <;> rfl

end Monitor

/-! ## Texts that overflow -/

/-- A tree of files in which the kernel's files hold the given texts. -/
def Tree.kernel (ticks memory : List Char) : Tree where
  root := .folder
    [("proc", .folder
      [("stat", .file (Utf8.encode ticks)), ("meminfo", .file (Utf8.encode memory))])]
  workingDirectory := []

/-- A text of the memory that gives more as available than a counter of bytes can hold,
although four kilobytes are all there is. -/
def Memory.overflowingText : List Char :=
  "MemTotal: 4 kB\nMemAvailable: 18446744073709551615 kB\n".toList

/-- A text of the ticks with two states that have too many together. -/
def Jiffies.overflowingText : List Char :=
  "cpu 18446744073709551615 0 0 1\n".toList

/-- Neither the processor nor the memory of a host can always be read without a panic, and so
an enabled monitor of a host does not always have a sample. -/
theorem Monitor.sampling_host_can_panic :
    let meter := HostMeter.start HostMeter.standardDiskPath
    let monitor := Monitor.start Thresholds.standard History.standardCapacity true meter
    (¬ ∀ (ticks memory : List Char) (counts : BlockCounts) (cause : Panic),
      (Source.host.cpu ((Tree.kernel ticks memory).host counts) meter).1 ≠
        .error (.panic cause)) ∧
    (¬ ∀ (ticks memory : List Char) (counts : BlockCounts) (cause : Panic),
      (Source.host.memory ((Tree.kernel ticks memory).host counts) meter).1 ≠
        .error (.panic cause)) ∧
    ¬ ∀ (ticks memory : List Char) (counts : BlockCounts) (clock : Binary64) (cause : Panic),
      (monitor.sample Source.host ⟨clock, (Tree.kernel ticks memory).host counts⟩).answer ≠
        .error cause := by
  refine ⟨fun h => ?_, fun h => ?_, fun h => ?_⟩
  · exact h Jiffies.overflowingText [] ⟨1, 0, 0, 4096⟩ .addOverflow (by decide +kernel)
  · exact h [] Memory.overflowingText ⟨1, 0, 0, 4096⟩ .multiplyOverflow (by decide +kernel)
  · exact h "cpu 1 1 1 1\n".toList Memory.overflowingText ⟨1, 0, 0, 4096⟩ 0 .multiplyOverflow
      (by decide +kernel)

end ResourceHealth
