/-!
# The front of a text

A reader that takes characters of a kind takes all of a stretch of them if something else
follows.

Main definitions:

- `Stops`: a text does not go on with a character of a kind.

Main results:

- Theorem `Stops.takeWhile_append`, `Stops.dropWhile_append`: what is taken and what is left.
-/

namespace ResourceHealth

/-- A text does not go on with a character of a kind. -/
def Stops (kind : Char → Bool) (text : List Char) : Prop :=
  ∀ c ∈ text.head?, kind c = false

theorem stops_cons {kind : Char → Bool} {c : Char} {rest : List Char} :
    Stops kind (c :: rest) ↔ kind c = false := by
  simp [Stops]

namespace Stops

variable {kind : Char → Bool} {stretch rest : List Char}

/-- Just the stretch is taken. -/
theorem takeWhile_append (hrest : Stops kind rest)
    (hstretch : ∀ c ∈ stretch, kind c = true) :
    (stretch ++ rest).takeWhile kind = stretch := by
  rw [List.takeWhile_append_of_pos hstretch]
  cases rest with
  | nil => exact List.append_nil stretch
  | cons c rest =>
    rw [List.takeWhile_cons_of_neg (by simp [stops_cons.mp hrest]), List.append_nil]

/-- What follows the stretch is left. -/
theorem dropWhile_append (hrest : Stops kind rest)
    (hstretch : ∀ c ∈ stretch, kind c = true) :
    (stretch ++ rest).dropWhile kind = rest := by
  rw [List.dropWhile_append_of_pos hstretch]
  cases rest with
  | nil => rfl
  | cons c rest => rw [List.dropWhile_cons_of_neg (by simp [stops_cons.mp hrest])]

end Stops

end ResourceHealth
