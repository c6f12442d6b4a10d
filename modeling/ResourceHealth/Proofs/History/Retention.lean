import Mathlib
import ResourceHealth.History

/-!
# What a history retains

Between two clearings a history is the end of what was pushed.  How much of it is left
does not depend on the present capacity alone: each capacity that was in force has let
go of what it could not hold, and only what was pushed afterwards has come on top.

Main definitions:

- `History.Change`, `History.apply`: the changes that can be made to a history.
- `History.sinceClear`: the changes since the last clearing.
- `History.allowance`: how much the capacity of one moment leaves.
- `History.retained`: how much is left, as a minimum over all moments.

Main results:

- Theorem `History.entries_applyAll`: a history holds the last pushes, as many as retained.
- Theorem `History.content_of_changes`: the same with what follows from it.
-/

namespace ResourceHealth

namespace History

variable {Entry : Type}

/-- What can be done to a history. -/
inductive Change (Entry : Type) where
  | push (entry : Entry)
  | setCapacity (capacity : Nat)
  | clear

/-- Makes one change. -/
def apply (history : History Entry) : Change Entry → History Entry
  | .push entry => history.push entry
  | .setCapacity capacity => history.setCapacity capacity
  | .clear => history.clear

/-- Makes changes one after the other. -/
def applyAll (history : History Entry) (changes : List (Change Entry)) : History Entry :=
  changes.foldl apply history

/-- The entries that changes push, in their order. -/
def pushed (changes : List (Change Entry)) : List Entry :=
  changes.filterMap fun
    | .push entry => some entry
    | _ => none

/-- The capacity in force after changes: the last that was asked for, but at least one. -/
def capacityAfter (asked : Nat) (changes : List (Change Entry)) : Nat :=
  changes.foldl (fun current change =>
    match change with
    | .setCapacity capacity => max capacity 1
    | _ => current) (max asked 1)

/-- Whether a change leaves the entries in place. -/
def Change.keeps : Change Entry → Bool
  | .clear => false
  | _ => true

/-- The changes after the last clearing, or all if there is none. -/
def sinceClear (changes : List (Change Entry)) : List (Change Entry) :=
  changes.rtakeWhile Change.keeps

/-- The changes up to the last clearing, it included. -/
def untilClear (changes : List (Change Entry)) : List (Change Entry) :=
  changes.rdropWhile Change.keeps

/-- What the capacity leaves that was in force a number of changes after the last clearing:
as many entries as it allows, and all that were pushed later. -/
def allowance (asked : Nat) (changes : List (Change Entry)) (moment : Nat) : Nat :=
  capacityAfter asked (untilClear changes ++ (sinceClear changes).take moment) +
    (pushed (sinceClear changes)).length - (pushed ((sinceClear changes).take moment)).length

/-- How many of the entries that were pushed since the last clearing are left: what all
capacities in force since then leave. -/
def retained (asked : Nat) (changes : List (Change Entry)) : Nat :=
  min (pushed (sinceClear changes)).length
    ((Finset.range ((sinceClear changes).length + 1)).inf' Finset.nonempty_range_add_one
      (allowance asked changes))

/-! ## One more change -/

theorem applyAll_append_singleton (history : History Entry) (changes : List (Change Entry))
    (change : Change Entry) :
    history.applyAll (changes ++ [change]) = (history.applyAll changes).apply change := by
  simp [applyAll]

theorem pushed_append (first second : List (Change Entry)) :
    pushed (first ++ second) = pushed first ++ pushed second :=
  List.filterMap_append

theorem length_pushed_take_le (changes : List (Change Entry)) (moment : Nat) :
    (pushed (changes.take moment)).length ≤ (pushed changes).length :=
  ((List.take_sublist moment changes).filterMap _).length_le

/-- A change that keeps the entries extends the run since the last clear. -/
theorem sinceClear_append_keeps (changes : List (Change Entry)) {change : Change Entry}
    (h : change.keeps = true) :
    sinceClear (changes ++ [change]) = sinceClear changes ++ [change] :=
  List.rtakeWhile_concat_pos _ _ _ h

/-- A change that keeps the entries leaves the run up to the last clear as it is. -/
theorem untilClear_append_keeps (changes : List (Change Entry)) {change : Change Entry}
    (h : change.keeps = true) : untilClear (changes ++ [change]) = untilClear changes :=
  List.rdropWhile_concat_pos _ _ _ h

theorem sinceClear_append_clear (changes : List (Change Entry)) :
    sinceClear (changes ++ [Change.clear]) = [] :=
  List.rtakeWhile_concat_neg _ _ _ (by simp [Change.keeps])

/-- The run up to the last clear and the run since then make up the whole run. -/
theorem untilClear_append_sinceClear (changes : List (Change Entry)) :
    untilClear changes ++ sinceClear changes = changes :=
  List.rdropWhile_append_rtakeWhile

/-- The capacity of a history is the one in force. -/
theorem capacity_applyAll (asked : Nat) (changes : List (Change Entry)) :
    ((empty asked).applyAll changes).capacity = capacityAfter asked changes := by
  induction changes using List.reverseRecOn with
  | nil => rfl
  | append_singleton changes change ih =>
    rw [applyAll_append_singleton]
    cases change with
    | push entry => simpa [apply, capacityAfter] using ih
    | setCapacity capacity => simp [apply, capacityAfter]
    | clear => simpa [apply, capacityAfter] using ih

/-- The capacity is at least one after any run. -/
theorem one_le_capacityAfter (asked : Nat) (changes : List (Change Entry)) :
    1 ≤ capacityAfter asked changes := by
  induction changes using List.reverseRecOn with
  | nil => exact Nat.le_max_right asked 1
  | append_singleton changes change ih =>
    cases change with
    | push entry => simpa [capacityAfter] using ih
    | setCapacity capacity => simp [capacityAfter]
    | clear => simpa [capacityAfter] using ih

/-! ## How much is left after one more change -/

/-- A lower bound for what is left is one for each of the minima. -/
theorem le_retained_iff {asked count : Nat} {changes : List (Change Entry)} :
    count ≤ retained asked changes ↔
      count ≤ (pushed (sinceClear changes)).length ∧
        ∀ moment ≤ (sinceClear changes).length, count ≤ allowance asked changes moment := by
  simp only [retained, le_min_iff, Finset.le_inf'_iff, Finset.mem_range, Nat.lt_succ_iff]

/-- The moments before a change keep their capacities. -/
theorem allowance_append {asked moment : Nat} {changes : List (Change Entry)}
    {change : Change Entry} (hkeeps : change.keeps = true)
    (hmoment : moment ≤ (sinceClear changes).length) :
    allowance asked (changes ++ [change]) moment =
      allowance asked changes moment + (pushed [change]).length := by
  have hle := length_pushed_take_le (sinceClear changes) moment
  simp only [allowance, sinceClear_append_keeps changes hkeeps,
    untilClear_append_keeps changes hkeeps, pushed_append, List.length_append,
    List.take_append_of_le_length hmoment]
  omega

/-- The moment after a change leaves as much as the capacity then in force. -/
theorem allowance_last (asked : Nat) (changes : List (Change Entry)) :
    allowance asked changes (sinceClear changes).length = capacityAfter asked changes := by
  rw [allowance, List.take_length, untilClear_append_sinceClear]
  omega

/-- One more change lets go of what the capacity after it does not hold. -/
theorem retained_append {asked : Nat} {changes : List (Change Entry)} {change : Change Entry}
    (hkeeps : change.keeps = true) :
    retained asked (changes ++ [change]) =
      min (retained asked changes + (pushed [change]).length)
        (capacityAfter asked (changes ++ [change])) := by
  have hlast := allowance_last asked (changes ++ [change])
  have hsince := sinceClear_append_keeps changes hkeeps
  have hlength : (sinceClear (changes ++ [change])).length = (sinceClear changes).length + 1 := by
    simp [hsince]
  refine eq_of_forall_le_iff fun count => ?_
  rw [le_retained_iff, le_min_iff, ← Nat.sub_le_iff_le_add, le_retained_iff, hsince,
    pushed_append, List.length_append, ← hsince, hlength]
  constructor
  · rintro ⟨hpushed, hall⟩
    refine ⟨⟨by omega, fun moment hmoment => ?_⟩, ?_⟩
    · have h := hall moment (by omega)
      rw [allowance_append hkeeps hmoment] at h
      omega
    · have h := hall ((sinceClear changes).length + 1) (Nat.le_refl _)
      rwa [← hlength, hlast] at h
  · rintro ⟨⟨hpushed, hall⟩, hcapacity⟩
    refine ⟨by omega, fun moment hmoment => ?_⟩
    rcases Nat.lt_or_eq_of_le hmoment with hlt | heq
    · have hle : moment ≤ (sinceClear changes).length := Nat.le_of_lt_succ hlt
      have h := hall moment hle
      rw [allowance_append hkeeps hle]
      omega
    · rw [heq, ← hlength, hlast]
      exact hcapacity

/-! ## The content of a history -/

/-- Cutting twice, with an entry added in between, is cutting once. -/
theorem newest_newest_append (first second : Nat) (entries more : List Entry) :
    newest second (newest first entries ++ more) =
      newest (min (min first entries.length + more.length) second) (entries ++ more) := by
  have houter : entries.length - first ≤ entries.length := Nat.sub_le _ _
  simp only [newest, List.length_append, List.length_drop]
  rw [← List.drop_append_of_le_length houter, List.drop_drop]
  congr 1
  omega

/-- A change that keeps the entries appends what it pushes and retains the newest that fit. -/
theorem entries_apply_of_keeps (history : History Entry) {change : Change Entry}
    (hkeeps : change.keeps = true) :
    (history.apply change).entries =
      newest (history.apply change).capacity (history.entries ++ pushed [change]) := by
  cases change with
  | push entry => rfl
  | setCapacity capacity => simp [apply, pushed]
  | clear => cases hkeeps

/-- A history holds the last entries that were pushed since it was cleared, as many as all
capacities since then leave. -/
theorem entries_applyAll (asked : Nat) (changes : List (Change Entry)) :
    ((empty asked).applyAll changes).entries =
      newest (retained asked changes) (pushed (sinceClear changes)) := by
  induction changes using List.reverseRecOn with
  | nil => rfl
  | append_singleton changes change ih =>
    cases hkeeps : change.keeps with
    | false =>
      have hclear : change = .clear := by cases change <;> simp_all [Change.keeps]
      subst hclear
      rw [applyAll_append_singleton, sinceClear_append_clear]
      simp [apply, pushed, newest]
    | true =>
      have hle : retained asked changes ≤ (pushed (sinceClear changes)).length :=
        Nat.min_le_left _ _
      have hcapacity := capacity_applyAll asked (changes ++ [change])
      rw [applyAll_append_singleton] at hcapacity ⊢
      rw [entries_apply_of_keeps _ hkeeps, ih, hcapacity, newest_newest_append,
        Nat.min_eq_left hle, ← retained_append hkeeps, sinceClear_append_keeps changes hkeeps,
        pushed_append]

/-- What is left is all that was pushed, or what some moment leaves. -/
theorem retained_eq_or (asked : Nat) (changes : List (Change Entry)) :
    retained asked changes = (pushed (sinceClear changes)).length ∨
      ∃ moment ≤ (sinceClear changes).length,
        retained asked changes = allowance asked changes moment := by
  obtain ⟨moment, hmem, hmoment⟩ :=
    Finset.exists_mem_eq_inf' Finset.nonempty_range_add_one (allowance asked changes)
  rw [retained, hmoment]
  rcases Nat.le_total (pushed (sinceClear changes)).length (allowance asked changes moment)
    with h | h
  · exact Or.inl (Nat.min_eq_left h)
  · exact Or.inr ⟨moment, Nat.lt_succ_iff.mp (Finset.mem_range.mp hmem), Nat.min_eq_right h⟩

/-- Something is left as soon as something was pushed. -/
theorem retained_pos {asked : Nat} {changes : List (Change Entry)}
    (h : pushed (sinceClear changes) ≠ []) : 1 ≤ retained asked changes := by
  refine le_retained_iff.mpr ⟨List.length_pos_iff.mpr h, fun moment _ => ?_⟩
  have hcapacity := one_le_capacityAfter asked
    (untilClear changes ++ (sinceClear changes).take moment)
  have hle := length_pushed_take_le (sinceClear changes) moment
  unfold allowance
  omega

/-- The end of a list keeps its last element. -/
theorem getLast?_newest {count : Nat} (hcount : 1 ≤ count) (entries : List Entry) :
    (newest count entries).getLast? = entries.getLast? := by
  cases entries with
  | nil => simp [newest]
  | cons entry rest =>
    rw [newest, List.getLast?_drop, if_neg]
    simp only [List.length_cons]
    omega

/-- For every capacity asked for at first and all changes after that: a history holds, oldest
first, the last of what was pushed since it was cleared, as many as the least that any
capacity since then leaves.  So nothing is lost but to a capacity that was in force, the
newest entry is always there, and a greater capacity brings nothing back. -/
theorem content_of_changes (asked : Nat) (changes : List (Change Entry)) :
    let history := (empty asked).applyAll changes
    let recent := pushed (sinceClear changes)
    (history.capacity = capacityAfter asked changes ∧ 1 ≤ history.capacity) ∧
      history.entries = recent.drop (recent.length - retained asked changes) ∧
      history.length = retained asked changes ∧
      (retained asked changes = recent.length ∨
        ∃ moment ≤ (sinceClear changes).length,
          retained asked changes = allowance asked changes moment) ∧
      history.latest? = recent.getLast? ∧
      ∀ more, (history.setCapacity (history.capacity + more)).entries = history.entries := by
  intro history recent
  have hentries : history.entries = newest (retained asked changes) recent :=
    entries_applyAll asked changes
  have hle : retained asked changes ≤ recent.length := Nat.min_le_left _ _
  have hlength : history.length = retained asked changes := by
    rw [length, hentries, length_newest, Nat.min_eq_right hle]
  have hforce : history.capacity = capacityAfter asked changes :=
    capacity_applyAll asked changes
  refine ⟨⟨hforce, ?_⟩, hentries, hlength, retained_eq_or asked changes, ?_, fun more => ?_⟩
  · rw [hforce]
    exact one_le_capacityAfter asked changes
  · rw [latest?, hentries]
    rcases eq_or_ne recent [] with hempty | hne
    · simp [hempty, newest]
    · exact getLast?_newest (retained_pos hne) recent
  · have hcapacity : history.length ≤ history.capacity := by
      have hlast := (le_retained_iff.mp (Nat.le_refl (retained asked changes))).2
        (sinceClear changes).length (Nat.le_refl _)
      rwa [allowance_last, ← hforce, ← hlength] at hlast
    have hroom : history.entries.length ≤ max (history.capacity + more) 1 := by
      unfold length at hcapacity
      omega
    rw [entries_setCapacity, newest_eq_self hroom]

end History

end ResourceHealth
