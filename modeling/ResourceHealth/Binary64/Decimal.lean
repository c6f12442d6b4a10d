import ResourceHealth.Binary64.Rounding

/-!
# Decimals and binary64

Reading a decimal rounds it once; writing a number takes the shortest decimal that
reads back as the same number.

A decimal is written on the grid of its exact value: every finite number is a
natural number of units of `10 ^ (-1074)`, so with `n` digits the two grid points
around the value are the quotient by a power of ten and its successor.  The first
`n` at which one of them reads back wins, and of two that do the nearer.

Main definitions:

- `Decimal`: a coefficient times a power of ten.
- `Decimal.toBinary64`: the nearest number.
- `Binary64.shortestDecimal`: the shortest decimal of a rank that reads back.

Main results:

- Theorem `Binary64.nearestRank_shortestGrid`: a grid point that the search takes
  reads back.
-/

namespace ResourceHealth

/-- A nonnegative decimal, `coefficient * 10 ^ exponent`. -/
structure Decimal where
  coefficient : Nat
  exponent : Int
deriving DecidableEq

namespace Decimal

/-- The decimal's digits. -/
def digits (d : Decimal) : List Char :=
  Nat.toDigits 10 d.coefficient

/-- How many digits stand before the decimal point; negative when zeros follow the point. -/
def point (d : Decimal) : Int :=
  d.digits.length + d.exponent

/-- The digits without trailing zeros. -/
def significant (d : Decimal) : List Char :=
  (d.digits.reverse.dropWhile (· = '0')).reverse

/-- The rank nearest to a decimal, which may exceed the rank of infinity. -/
def nearestRank (d : Decimal) : Nat :=
  match d.exponent with
  | .ofNat e => Binary64.nearestRank (d.coefficient * Nat.pow 10 e * Binary64.unitsPerOne) 1
  | .negSucc e => Binary64.nearestRank (d.coefficient * Binary64.unitsPerOne) (Nat.pow 10 (e + 1))

/-- Beyond this many places on either side of the point a decimal is infinite or zero. -/
def farPlaces : Int := 400

/-- The number nearest to a signed decimal.  Decimals far outside the range of finite
numbers are decided by their point alone, so that no huge power is formed. -/
def toBinary64 (negative : Bool) (d : Decimal) : Binary64 :=
  if d.coefficient = 0 ∨ d.point < -farPlaces then .signed negative ⟨0, Nat.succ_pos _⟩
  else if farPlaces < d.exponent then .signed negative ⟨infinityRank, Nat.lt_succ_self _⟩
  else .signed negative ⟨min d.nearestRank infinityRank, Nat.lt_succ_of_le (Nat.min_le_right _ _)⟩

end Decimal

namespace Binary64

/-- The exponent of the decimal unit in which every finite number is a natural number. -/
def finestPlace : Nat := 1074

/-- The power of five in the finest decimal unit. -/
def finestFives : Nat := Nat.pow 5 finestPlace

/-- The exact value of a rank as a decimal. -/
def exactDecimal (rank : Nat) : Decimal :=
  ⟨scaled rank * finestFives, -finestPlace⟩

/-- A decimal that is read as the given rank. -/
abbrev ReadsBack (rank : Nat) (d : Decimal) : Prop :=
  d.nearestRank = rank

/-- The decimal of `count` digits that stands for a rank, if one of the two grid points
around the exact value reads back; of two that do the nearer is taken. -/
def shortestGrid (tie : Tie) (rank count : Nat) : Option Decimal :=
  let exact := exactDecimal rank
  let dropped := exact.digits.length - count
  let unit := Nat.pow 10 dropped
  let exponent := exact.exponent + dropped
  let below : Decimal := ⟨exact.coefficient / unit, exponent⟩
  let above : Decimal := ⟨exact.coefficient / unit + 1, exponent⟩
  let nearer : Decimal := ⟨divideRounding tie exact.coefficient unit, exponent⟩
  if ReadsBack rank below ∧ ReadsBack rank above then
    if ReadsBack rank nearer then some nearer else none
  else if ReadsBack rank below then some below
  else if ReadsBack rank above then some above
  else none

/-- As many digits as the shortest decimal of a number ever needs. -/
def enoughDigits : Nat := 17

/-- The shortest decimal that reads back as the rank; `tie` decides between two of one
length that are equally near. -/
def shortestDecimal (tie : Tie) (rank : Nat) : Decimal :=
  ((List.range' 1 enoughDigits).findSome? (shortestGrid tie rank)).getD (exactDecimal rank)

/-- A grid point that the search takes reads back. -/
theorem nearestRank_shortestGrid {tie : Tie} {rank count : Nat} {d : Decimal}
    (h : shortestGrid tie rank count = some d) : d.nearestRank = rank := by
  unfold shortestGrid at h
  simp only at h
  split at h
  · split at h
    · rename_i hread
      cases h
      exact hread
    · cases h
  · split at h
    · rename_i hread
      cases h
      exact hread
    · split at h
      · rename_i hread
        cases h
        exact hread
      · cases h

end Binary64

end ResourceHealth
