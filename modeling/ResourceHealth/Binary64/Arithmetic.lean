import ResourceHealth.Binary64.Rounding
import ResourceHealth.Counter

/-!
# Binary64 arithmetic

The operations that the accounting of load needs: difference, product, quotient,
maximum, clamping, rounding to an integer and the cut to a counter.  Each finite
result is the exact result rounded once.

Main definitions:

- `x - y`, `x * y`, `x / y`: correctly rounded arithmetic.
- `Binary64.max`, `Binary64.clamp`: choice by comparison.
- `Binary64.round`: to the nearest integer, a half away from zero.
- `Binary64.toCount`: to a counter, truncating and saturating.

Main results:

- Theorem `Binary64.clamp_eq_self`: clamping leaves alone what is within bounds.
- Theorem `Binary64.le_max_right`: a maximum is not below its second operand.
-/

namespace ResourceHealth

namespace Binary64

/-! ## Rounded operations -/

/-- The difference.  Infinities of one sign have none, and an exact zero is negative only
when it comes from `-0 - 0`. -/
def sub (x y : Binary64) : Binary64 :=
  match x, y with
  | nan, _ => nan
  | _, nan => nan
  | signed s r, signed t q =>
    if r.val = infinityRank then
      if q.val = infinityRank ∧ s = t then nan else x
    else if q.val = infinityRank then signed (!t) q
    else
      let difference := x.scaledValue - y.scaledValue
      if difference = 0 then
        if s ∧ !t ∧ r.val = 0 then x else zero
      else ofRatio (decide (difference < 0)) difference.natAbs 1

/-- The product; an infinity times a zero has none. -/
def mul (x y : Binary64) : Binary64 :=
  match x, y with
  | nan, _ => nan
  | _, nan => nan
  | signed s r, signed t q =>
    if r.val = infinityRank ∨ q.val = infinityRank then
      if r.val = 0 ∨ q.val = 0 then nan
      else signed (s != t) ⟨infinityRank, Nat.lt_succ_self _⟩
    else ofRatio (s != t) (scaled r.val * scaled q.val) unitsPerOne

/-- The quotient; a zero by a zero and an infinity by an infinity have none, and any other
division by zero is infinite. -/
def div (x y : Binary64) : Binary64 :=
  match x, y with
  | nan, _ => nan
  | _, nan => nan
  | signed s r, signed t q =>
    if r.val = infinityRank then
      if q.val = infinityRank then nan else signed (s != t) r
    else if q.val = infinityRank then signed (s != t) ⟨0, Nat.succ_pos _⟩
    else if q.val = 0 then
      if r.val = 0 then nan else signed (s != t) ⟨infinityRank, Nat.lt_succ_self _⟩
    else ofRatio (s != t) (scaled r.val * unitsPerOne) (scaled q.val)

instance : Sub Binary64 := ⟨sub⟩

instance : Mul Binary64 := ⟨mul⟩

instance : Div Binary64 := ⟨div⟩

/-! ## Choice by comparison -/

/-- The greater of two numbers: a NaN gives way to the other, and of two equal numbers the
second is taken. -/
def max (x y : Binary64) : Binary64 :=
  if x = nan ∨ x ≤ y then y else x

/-- The number itself within the bounds, otherwise the bound that it passes; NaN stays NaN. -/
def clamp (low high x : Binary64) : Binary64 :=
  if x < low then low else if high < x then high else x

/-- Clamping leaves alone what is within bounds. -/
theorem clamp_eq_self {low high x : Binary64} (hlow : ¬ x < low) (hhigh : ¬ high < x) :
    clamp low high x = x := by
  simp [clamp, hlow, hhigh]

/-- A maximum is not below its second operand unless that is NaN. -/
theorem le_max_right {x y : Binary64} (hy : y ≠ nan) : y ≤ max x y := by
  unfold max
  split
  · rcases le_total_of_ne_nan hy hy with h | h <;> exact h
  · rename_i hnot
    rw [not_or] at hnot
    rcases le_total_of_ne_nan hnot.1 hy with h | h
    · exact absurd h hnot.2
    · exact h

/-! ## Integers -/

/-- The nearest integer, a half going away from zero; it keeps the sign of the number. -/
def round : Binary64 → Binary64
  | nan => nan
  | signed s r =>
    if r.val = infinityRank then signed s r
    else ofRatio s (divideRounding .away (scaled r.val) unitsPerOne * unitsPerOne) 1

/-- The number cut to a counter: NaN and what is below zero become zero, fractions are
dropped, and what is too large becomes the greatest counter. -/
def toCount : Binary64 → Nat
  | nan => 0
  | signed true _ => 0
  | signed false r =>
    if r.val = infinityRank then Counter.greatest
    else min (scaled r.val / unitsPerOne) Counter.greatest

end Binary64

end ResourceHealth
