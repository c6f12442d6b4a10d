import ResourceHealth.Sample
import ResourceHealth.Thresholds

/-!
# Health

The levels of the three resources in one sample, and whether they allow more work
to be taken on.

Main definitions:

- `Health`: the levels.
- `Health.classify`: the levels of a sample.
- `Health.worst`, `Health.isAvailable`: what they amount to.

Main results:

- Theorem `Health.isAvailable_iff`: work is taken on unless one of the three is critical.
-/

namespace ResourceHealth

/-- The levels of the three resources. -/
structure Health where
  cpu : Level
  memory : Level
  disk : Level
deriving DecidableEq

namespace Health

/-- The levels of a sample. -/
def classify (sample : Sample) (thresholds : Thresholds) : Health where
  cpu := Level.classify sample.cpu thresholds.cpu
  memory := Level.classify sample.memory thresholds.memory
  disk := Level.classify sample.disk thresholds.disk

/-- The worst of the three levels. -/
def worst (health : Health) : Level :=
  (health.cpu.worse health.memory).worse health.disk

/-- Work is taken on as long as nothing is critical. -/
def isAvailable (health : Health) : Bool :=
  health.worst ≠ .critical

/-- Work is taken on unless one of the three is critical. -/
theorem isAvailable_iff {health : Health} :
    health.isAvailable = true ↔
      health.cpu ≠ .critical ∧ health.memory ≠ .critical ∧ health.disk ≠ .critical := by
  simp only [isAvailable, worst, ne_eq, Level.worse_eq_critical_iff, decide_eq_true_eq]
  constructor
  · intro h
    exact ⟨fun hc => h (Or.inl (Or.inl hc)), fun hm => h (Or.inl (Or.inr hm)),
      fun hd => h (Or.inr hd)⟩
  · rintro ⟨hc, hm, hd⟩ ((h | h) | h)
    · exact hc h
    · exact hm h
    · exact hd h

/-- The name of the record. -/
def recordName : String := "HealthStatus"

/-- The levels by name, in the order in which they are written. -/
def fields : List (Field Health Level) := [
  ⟨"cpu", (·.cpu), fun x h => { h with cpu := x }⟩,
  ⟨"memory", (·.memory), fun x h => { h with memory := x }⟩,
  ⟨"disk", (·.disk), fun x h => { h with disk := x }⟩]

/-- The levels by name, in the order of the names. -/
def byName (health : Health) : List (String × Level) :=
  [("cpu", health.cpu), ("disk", health.disk), ("memory", health.memory)]

end Health

end ResourceHealth
