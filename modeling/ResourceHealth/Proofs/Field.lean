import Mathlib
import ResourceHealth.Field
import ResourceHealth.Health

/-!
# Fields that make up a record

The fields of a record have different names, each is put without touching the others, and
together they are the record.  Then a record is found again from the values of its fields,
in whatever order they are given.

Main definitions:

- `Field.MakeUp`: the fields make up the record.

Main results:

- Theorem `find?_of_nodup`: of items with different names each is found by its name.
- Theorem `Field.MakeUp.get_assign`: assigning some values of a record takes these over, and
  nothing else.
- Theorem `Field.MakeUp.assign_of_perm`: assigning all of them, in any order, gives the record.
- Theorem `Sample.fields_makeUp`, `Thresholds.fields_makeUp`, `Health.fields_makeUp`: the
  records of this library are made up of their fields.
- Theorem `Sample.byName_perm`, `Health.byName_perm`: what records have by name are the values
  of their fields.
-/

namespace ResourceHealth

/-- Of items with different names each is found by its name. -/
theorem find?_of_nodup {Item Name : Type} [BEq Name] [LawfulBEq Name] {name : Item → Name}
    {items : List Item} (hnodup : (items.map name).Nodup) {item : Item} (hitem : item ∈ items) :
    items.find? (name · == name item) = some item := by
  cases hfind : items.find? (name · == name item) with
  | none =>
    have hnone := List.find?_eq_none.mp hfind item hitem
    simp at hnone
  | some found =>
    have hname : name found = name item := by simpa using List.find?_some hfind
    rw [List.inj_on_of_nodup_map hnodup (List.mem_of_find?_eq_some hfind) hitem hname]

namespace Field

variable {Record Value : Type}

/-- Fields that make up a record. -/
structure MakeUp (fields : List (Field Record Value)) : Prop where
  /-- No two fields share a name. -/
  nodup : (fields.map (·.name)).Nodup
  /-- What is put in one field is there, and the other fields stay as they are. -/
  get_put : ∀ field ∈ fields, ∀ other ∈ fields, ∀ value record,
    other.get (field.put value record) =
      if field.name = other.name then value else other.get record
  /-- There is no more to the record than its fields. -/
  ext : ∀ first second, (∀ field ∈ fields, field.get first = field.get second) → first = second

/-- The values of a record have the names of its fields. -/
theorem names_of_perm {fields : List (Field Record Value)} {record : Record}
    {values : List (String × Value)}
    (hvalues : values.Perm (Field.values fields record)) :
    (values.map (·.1)).Perm (fields.map (·.name)) := by
  have hnames := hvalues.map (·.1)
  rwa [Field.values, List.map_map] at hnames

namespace MakeUp

variable {fields : List (Field Record Value)}

/-- Fields that share a name are the same. -/
theorem eq_of_name_eq (h : MakeUp fields) {field other : Field Record Value}
    (hfield : field ∈ fields) (hother : other ∈ fields) (hname : field.name = other.name) :
    field = other :=
  List.inj_on_of_nodup_map h.nodup hfield hother hname

/-- The value of a field is put in that field. -/
theorem assign_cons (h : MakeUp fields) {field : Field Record Value} (hfield : field ∈ fields)
    (value : Value) (rest : List (String × Value)) (start : Record) :
    assign fields ((field.name, value) :: rest) start =
      assign fields rest (field.put value start) := by
  have hfind : fields.find? (·.name == field.name) = some field := find?_of_nodup h.nodup hfield
  rw [assign, List.foldl_cons]
  simp only [hfind]
  rfl

/-- The fields whose values are taken from a record are as they are there, and the others stay
as they were. -/
theorem get_assign (h : MakeUp fields) {record : Record} {values : List (String × Value)}
    (hvalues : values ⊆ Field.values fields record) {field : Field Record Value}
    (hfield : field ∈ fields) (start : Record) :
    field.get (assign fields values start) =
      if field.name ∈ values.map (·.1) then field.get record else field.get start := by
  induction values generalizing start with
  | nil => rfl
  | cons value rest ih =>
    obtain ⟨hvalue, hrest⟩ := List.cons_subset.mp hvalues
    obtain ⟨other, hother, rfl⟩ := List.mem_map.mp hvalue
    rw [h.assign_cons hother, ih hrest, h.get_put other hother field hfield]
    simp only [List.map_cons, List.mem_cons]
    by_cases hname : field.name = other.name
    · have hsame := h.eq_of_name_eq hfield hother hname
      simp [hsame]
    · have hname' : other.name ≠ field.name := fun heq => hname heq.symm
      simp only [if_neg hname', hname, false_or]

/-- A record is made up of the values of its fields, in whatever order they come. -/
theorem assign_of_perm (h : MakeUp fields) {record : Record} {values : List (String × Value)}
    (hvalues : values.Perm (Field.values fields record)) (start : Record) :
    assign fields values start = record := by
  refine h.ext _ _ fun field hfield => ?_
  have hname : field.name ∈ values.map (·.1) :=
    List.mem_map_of_mem (hvalues.mem_iff.mpr (List.mem_map_of_mem hfield))
  rw [h.get_assign hvalues.subset hfield, if_pos hname]

end MakeUp

end Field

/-- A sample is made up of its five figures. -/
theorem Sample.fields_makeUp : Field.MakeUp Sample.fields where
  nodup := by decide
  get_put := by simp [Sample.fields]
  ext := by
    rintro ⟨cpu, memory, availableMb, disk, timestamp⟩ ⟨_, _, _, _, _⟩ h
    simp_all [Sample.fields]

/-- Thresholds are made up of their six cut-offs. -/
theorem Thresholds.fields_makeUp : Field.MakeUp Thresholds.fields where
  nodup := by decide
  get_put := by simp [Thresholds.fields]
  ext := by
    rintro ⟨⟨_, _⟩, ⟨_, _⟩, ⟨_, _⟩⟩ ⟨⟨_, _⟩, ⟨_, _⟩, ⟨_, _⟩⟩ h
    simp_all [Thresholds.fields]

/-- Health is made up of its three levels. -/
theorem Health.fields_makeUp : Field.MakeUp Health.fields where
  nodup := by decide
  get_put := by simp [Health.fields]
  ext := by
    rintro ⟨_, _, _⟩ ⟨_, _, _⟩ h
    simp_all [Health.fields]

/-! ## Figures by name -/

/-- The figures of a sample by name are the values of its fields. -/
theorem Sample.byName_perm (sample : Sample) :
    sample.byName.Perm (Field.values Sample.fields sample) := by
  -- the three figures in the middle stand the other way round
  have hmiddle := List.reverse_perm [("memory_percent", sample.memory),
    ("memory_available_mb", sample.availableMb), ("disk_percent", sample.disk)]
  exact (hmiddle.append_right [("timestamp", sample.timestamp)]).cons ("cpu_percent", sample.cpu)

/-- The levels of health by name are the values of its fields. -/
theorem Health.byName_perm (health : Health) :
    health.byName.Perm (Field.values Health.fields health) :=
  -- the fields name the disk last
  (List.Perm.swap _ _ []).cons _

/-- The figures of a sample by name are in the order of the names. -/
theorem Sample.byName_increasing (sample : Sample) :
    (sample.byName.map (·.1)).Pairwise (· < ·) := by
  change ["cpu_percent", "disk_percent", "memory_available_mb", "memory_percent",
    "timestamp"].Pairwise (· < ·)
  decide

/-- The levels of health by name are in the order of the names. -/
theorem Health.byName_increasing (health : Health) :
    (health.byName.map (·.1)).Pairwise (· < ·) := by
  change ["cpu", "disk", "memory"].Pairwise (· < ·)
  decide

end ResourceHealth
