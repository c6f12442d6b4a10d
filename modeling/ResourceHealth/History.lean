/-!
# Histories

A history keeps the most recent entries, as many as its capacity allows and never
less than one.

Main definitions:

- `History`: the kept entries, oldest first, and the capacity.
- `History.push`, `History.setCapacity`, `History.clear`: the operations.
- `History.latest?`: the newest entry.

Main results:

- Theorem `History.newest_suffix`: what is kept is the end of what there was.
- Theorem `History.latest?_push`: an entry that was just added is kept.
- Theorem `History.length_push_le`: no more entries are kept than the capacity.
-/

namespace ResourceHealth

/-- The most recent entries, oldest first. -/
structure History (Entry : Type) where
  entries : List Entry
  capacity : Nat

namespace History

variable {Entry : Type}

/-- The capacity of a history for which none is asked. -/
def standardCapacity : Nat := 100

/-- The last entries of a list, as many as the capacity. -/
def newest (capacity : Nat) (entries : List Entry) : List Entry :=
  entries.drop (entries.length - capacity)

/-- An empty history. -/
def empty (capacity : Nat) : History Entry :=
  ⟨[], max capacity 1⟩

/-- Adds an entry; the oldest ones give way. -/
def push (history : History Entry) (entry : Entry) : History Entry :=
  { history with entries := newest history.capacity (history.entries ++ [entry]) }

/-- Changes the capacity; the oldest entries beyond it are dropped. -/
def setCapacity (history : History Entry) (capacity : Nat) : History Entry :=
  ⟨newest (max capacity 1) history.entries, max capacity 1⟩

/-- Drops all entries. -/
def clear (history : History Entry) : History Entry :=
  { history with entries := [] }

/-- How many entries are kept. -/
def length (history : History Entry) : Nat :=
  history.entries.length

/-- The newest entry. -/
def latest? (history : History Entry) : Option Entry :=
  history.entries.getLast?

/-! ## What the operations do to entries and capacity -/

@[simp]
theorem entries_empty (capacity : Nat) : (empty capacity : History Entry).entries = [] :=
  rfl

@[simp]
theorem capacity_empty (capacity : Nat) :
    (empty capacity : History Entry).capacity = max capacity 1 :=
  rfl

/-- Pushing appends the entry and keeps the newest ones that fit. -/
@[simp]
theorem entries_push (history : History Entry) (entry : Entry) :
    (history.push entry).entries = newest history.capacity (history.entries ++ [entry]) :=
  rfl

@[simp]
theorem capacity_push (history : History Entry) (entry : Entry) :
    (history.push entry).capacity = history.capacity :=
  rfl

/-- A new capacity, at least one, keeps the newest entries that fit. -/
@[simp]
theorem entries_setCapacity (history : History Entry) (capacity : Nat) :
    (history.setCapacity capacity).entries = newest (max capacity 1) history.entries :=
  rfl

@[simp]
theorem capacity_setCapacity (history : History Entry) (capacity : Nat) :
    (history.setCapacity capacity).capacity = max capacity 1 :=
  rfl

@[simp]
theorem entries_clear (history : History Entry) : history.clear.entries = [] :=
  rfl

@[simp]
theorem capacity_clear (history : History Entry) : history.clear.capacity = history.capacity :=
  rfl

/-! ## What is kept -/

/-- What is kept is the end of what there was. -/
theorem newest_suffix (capacity : Nat) (entries : List Entry) :
    newest capacity entries <:+ entries :=
  List.drop_suffix _ _

/-- The newest entries are as many as there are, up to the capacity. -/
theorem length_newest (capacity : Nat) (entries : List Entry) :
    (newest capacity entries).length = min entries.length capacity := by
  simp only [newest, List.length_drop]
  omega

/-- Nothing is dropped while there is room for all. -/
theorem newest_eq_self {capacity : Nat} {entries : List Entry}
    (h : entries.length ≤ capacity) : newest capacity entries = entries := by
  rw [newest, Nat.sub_eq_zero_of_le h, List.drop_zero]

/-- With a capacity that stays the same it does not matter when entries are dropped. -/
theorem newest_append_newest (capacity : Nat) (entries more : List Entry) :
    newest capacity (newest capacity entries ++ more) = newest capacity (entries ++ more) := by
  have hdropped : entries.length - capacity ≤ entries.length := Nat.sub_le _ _
  simp only [newest, List.length_append, List.length_drop]
  rw [← List.drop_append_of_le_length hdropped, List.drop_drop]
  congr 1
  omega

/-- No more entries are kept than the capacity. -/
theorem length_push_le (history : History Entry) (entry : Entry) :
    (history.push entry).length ≤ history.capacity := by
  simp only [push, length, length_newest]
  omega

/-- Changing the capacity keeps no more entries than the new one. -/
theorem length_setCapacity_le (history : History Entry) (capacity : Nat) :
    (history.setCapacity capacity).length ≤ (history.setCapacity capacity).capacity := by
  rw [length, entries_setCapacity, length_newest, capacity_setCapacity]
  exact Nat.min_le_right _ _

/-- An entry that was just added is kept. -/
theorem latest?_push {history : History Entry} (hcapacity : 0 < history.capacity)
    (entry : Entry) : (history.push entry).latest? = some entry := by
  simp only [push, latest?, newest, List.length_append, List.length_singleton]
  rw [List.drop_append_of_le_length (by omega)]
  simp

/-- There is a newest entry unless nothing is kept. -/
theorem latest?_eq_none_iff {history : History Entry} :
    history.latest? = none ↔ history.entries = [] :=
  List.getLast?_eq_none_iff

end History

end ResourceHealth
