import ResourceHealth.Binary64.Basic

/-!
# Levels

A value is healthy, or past a warning cut-off, or past a critical one.

Main definitions:

- `Level`: the three levels, ordered.
- `Cutoffs`: a pair of cut-offs.
- `Level.classify`: the level of a value.

Main results:

- Theorem `Level.worse_le_iff`: the worse of two levels is the least that is as bad as both.
- Theorem `Level.classify_eq_critical_iff`: the warning cut-off has no say in what is
  critical.
-/

namespace ResourceHealth

/-- How far a resource is used up. -/
inductive Level where
  | healthy
  | warning
  | critical
deriving DecidableEq

/-- The values from which a resource is at a level. -/
structure Cutoffs where
  warning : Binary64
  critical : Binary64
deriving DecidableEq

namespace Level

/-- The place of a level from the best to the worst. -/
def rank : Level → Nat
  | healthy => 0
  | warning => 1
  | critical => 2

/-- The name of a level. -/
def name : Level → String
  | healthy => "healthy"
  | warning => "warning"
  | critical => "critical"

/-- All levels from the best to the worst. -/
def all : List Level := [healthy, warning, critical]

/-- The level of a name. -/
def ofName? (name : String) : Option Level :=
  all.find? (·.name == name)

/-- Reading a level's name gives the level back. -/
theorem ofName?_name (level : Level) : ofName? level.name = some level := by
  cases level <;> decide

instance : LE Level := ⟨fun a b => a.rank ≤ b.rank⟩

instance (a b : Level) : Decidable (a ≤ b) :=
  inferInstanceAs (Decidable (a.rank ≤ b.rank))

/-- How two levels compare. -/
def compare (a b : Level) : Ordering :=
  Ord.compare a.rank b.rank

/-- The worse of two levels. -/
def worse (a b : Level) : Level :=
  if a ≤ b then b else a

/-- The worse of two levels is at least the first. -/
theorem le_worse_left (a b : Level) : a ≤ a.worse b := by
  cases a <;> cases b <;> decide

theorem le_worse_right (a b : Level) : b ≤ a.worse b := by
  cases a <;> cases b <;> decide

/-- The worse of two levels is the least that is as bad as both. -/
theorem worse_le_iff {a b c : Level} : a.worse b ≤ c ↔ a ≤ c ∧ b ≤ c := by
  cases a <;> cases b <;> cases c <;> decide

/-- The worse of two levels is critical if one of them is. -/
theorem worse_eq_critical_iff {a b : Level} :
    a.worse b = critical ↔ a = critical ∨ b = critical := by
  cases a <;> cases b <;> decide

/-- The level of a value.  The critical cut-off is asked first, so it also decides when it is
below the warning cut-off; NaN reaches no cut-off. -/
def classify (value : Binary64) (cutoffs : Cutoffs) : Level :=
  if cutoffs.critical ≤ value then critical
  else if cutoffs.warning ≤ value then warning
  else healthy

/-- A value is critical exactly when it reaches the critical cut-off. -/
theorem classify_eq_critical_iff {value : Binary64} {cutoffs : Cutoffs} :
    classify value cutoffs = critical ↔ cutoffs.critical ≤ value := by
  unfold classify
  split
  · simp_all
  · split <;> simp_all

end Level

end ResourceHealth
