import ResourceHealth.Panic

/-!
# Counters

The kernel counts in 64 bits.  A counter is a natural number below `2 ^ 64`; sums
and products that leave that range either stay at the greatest counter or are a
panic, whichever the operation says.

Main definitions:

- `Counter.read?`: the literal form of a counter.
- `Counter.add`, `Counter.multiply`, `Counter.sum`: arithmetic that panics.
- `Counter.multiplyCapped`, `Counter.addCapped`: arithmetic that stays in range.
-/

namespace ResourceHealth

namespace Counter

/-- The number of counters. -/
def limit : Nat := Nat.pow 2 64

/-- The greatest counter. -/
def greatest : Nat := limit - 1

/-! ## Literals -/

/-- The number written by decimal digits. -/
def ofDigits (digits : List Char) : Nat :=
  digits.foldl (fun n d => n * 10 + (d.toNat - '0'.toNat)) 0

/-- A text without one leading plus sign. -/
def withoutPlus : List Char → List Char
  | '+' :: rest => rest
  | text => text

/-- Reads a counter: ASCII digits, at least one, after at most one plus sign. -/
def read? (text : List Char) : Option Nat :=
  let digits := withoutPlus text
  let n := ofDigits digits
  if digits ≠ [] ∧ digits.all Char.isDigit ∧ n < limit then some n else none

/-! ## Arithmetic that stays in range -/

/-- The sum, or the greatest counter when it is too large. -/
def addCapped (a b : Nat) : Nat :=
  min (a + b) greatest

/-- The product, or the greatest counter when it is too large. -/
def multiplyCapped (a b : Nat) : Nat :=
  min (a * b) greatest

/-- A capped sum is a counter. -/
theorem addCapped_lt (a b : Nat) : addCapped a b < limit := by
  unfold addCapped greatest limit
  simp only [Nat.pow_eq]
  omega

/-- A capped product is a counter. -/
theorem multiplyCapped_lt (a b : Nat) : multiplyCapped a b < limit := by
  unfold multiplyCapped greatest limit
  simp only [Nat.pow_eq]
  omega

/-! ## Arithmetic that panics -/

/-- The sum; a panic when it is no counter. -/
def add (a b : Nat) : Except Panic Nat :=
  if a + b < limit then .ok (a + b) else .error .addOverflow

/-- The product; a panic when it is no counter. -/
def multiply (a b : Nat) : Except Panic Nat :=
  if a * b < limit then .ok (a * b) else .error .multiplyOverflow

/-- The sum of a list, added up from the left. -/
def sum (counts : List Nat) : Except Panic Nat :=
  counts.foldlM add 0

end Counter

end ResourceHealth
