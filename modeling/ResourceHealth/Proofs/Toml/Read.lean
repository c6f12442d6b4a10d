import Mathlib
import ResourceHealth.Proofs.Field
import ResourceHealth.Proofs.Toml.Document
import ResourceHealth.Toml.Read

/-!
# Records written in TOML read back

The figures of a record that are written as lines are read back from the rows that these
lines give.

Main definitions:

- `Toml.Entry.numbers`: the lines of the figures of a record.
- `Toml.RowReadsAs`: a row that gives a value by its name.

Main results:

- Theorem `Toml.readPairs_of_rowReadsAs`: reading rows assigns the values that they give.
- Theorem `Toml.readPairs_numbers`: the figures of a record are read as the record.
-/

namespace ResourceHealth

namespace Toml

/-! ## Lines of scalars -/

namespace Entry

/-- The line of a counter. -/
def counter (key : String) (isBareName : IsBareName key.toList) (n : Nat)
    (hn : n < Nat.pow 2 63) : Entry where
  key
  value := Nat.toDigits 10 n
  scalar := .integer n
  isBareName
  scalar?_eq := scalar?_toDigits hn

/-- The line of a switch. -/
def boolean (key : String) (isBareName : IsBareName key.toList) (value : Bool) : Entry where
  key
  value := if value then "true".toList else "false".toList
  scalar := .boolean value
  isBareName
  scalar?_eq rest := scalar?_boolean value ('\n' :: rest)

/-- The line of a text that is written in some form. -/
def string (key : String) (isBareName : IsBareName key.toList) {written text : List Char}
    (hwritten : IsStringLiteral written text) : Entry where
  key
  value := written
  scalar := .string text
  isBareName
  scalar?_eq := hwritten

/-- The line of a number. -/
def number (key : String) (isBareName : IsBareName key.toList) (x : Binary64) : Entry where
  key
  value := NumberStyle.toml.write x
  scalar := .float x
  isBareName
  scalar?_eq := scalar?_write x

variable {Record : Type}

/-- The lines of the figures of a record. -/
def numbers (fields : List (Field Record Binary64))
    (hnames : ∀ field ∈ fields, IsBareName field.name.toList) (record : Record) : List Entry :=
  fields.attach.map fun field =>
    number field.1.name (hnames field.1 field.2) (field.1.get record)

/-- The lines are as many as the values of the record, and in their order. -/
theorem values_eq_attach (fields : List (Field Record Binary64)) (record : Record) :
    Field.values fields record =
      fields.attach.map fun field => (field.1.name, field.1.get record) := by
  conv_lhs => rw [Field.values, ← List.attach_map_subtype_val fields, List.map_map]
  rfl

/-- The entries of a record of numbers are written one line for each field. -/
theorem lines_numbers (fields : List (Field Record Binary64))
    (hnames : ∀ field ∈ fields, IsBareName field.name.toList) (record : Record) :
    (numbers fields hnames record).flatMap line =
      (Field.values fields record).flatMap fun part =>
        Toml.line part.1 (NumberStyle.toml.write part.2) := by
  rw [numbers, values_eq_attach, List.flatMap_map, List.flatMap_map]
  rfl

theorem keys_numbers (fields : List (Field Record Binary64))
    (hnames : ∀ field ∈ fields, IsBareName field.name.toList) (record : Record) :
    (numbers fields hnames record).map (·.key) = fields.map (·.name) := by
  have hkeys : (numbers fields hnames record).map (·.key) =
      (Field.values fields record).map (·.1) := by
    rw [numbers, values_eq_attach, List.map_map, List.map_map]
    rfl
  rw [hkeys, Field.values, List.map_map]
  rfl

end Entry

/-! ## Rows are read -/

variable {Record Value : Type}

/-- The slots of fields whose values are all read in one way. -/
def slotsOf (read : NodeReader Value) (fields : List (Field Record Value)) :
    List (Slot Record) :=
  fields.map fun field => .ofField field read

/-- A row is read by the slot that its key names. -/
theorem readPairs_of_mem {slots : List (Slot Record)} (hnames : (slots.map (·.name)).Nodup)
    {slot : Slot Record} (hslot : slot ∈ slots) {key : Key} (hkey : key.name = slot.name.toList)
    {node : Node} {put : Record → Record} (hread : ∀ span, slot.read span node = .ok put)
    (rest : Table) (record : Record) :
    readPairs slots ((key, node) :: rest) record = readPairs slots rest (put record) := by
  have htexts : (slots.map (·.name.toList)).Nodup := by
    have := hnames.map fun (_ _ : String) => String.toList_inj.mp
    rwa [List.map_map] at this
  have hfind : slots.find? (·.name.toList == key.name) = some slot := by
    rw [hkey]
    exact find?_of_nodup htexts hslot
  rw [readPairs, hfind]
  simp only [hread]

/-- A row that gives a value by its name. -/
structure RowReadsAs (read : NodeReader Value) (value : String × Value) (row : Key × Node) :
    Prop where
  key : row.1.name = value.1.toList
  read_eq : ∀ span, read span row.2 = .ok value.2

/-- Reading rows assigns the values that they give. -/
theorem readPairs_of_rowReadsAs {fields : List (Field Record Value)} (hfields : Field.MakeUp fields)
    {read : NodeReader Value} {values : List (String × Value)} {rows : Table}
    (hgives : List.Forall₂ (RowReadsAs read) values rows)
    (hnames : values.map (·.1) ⊆ fields.map (·.name)) (start : Record) :
    readPairs (slotsOf read fields) rows start = .ok (Field.assign fields values start) := by
  have hslots : ((slotsOf read fields).map (·.name)).Nodup := by
    rw [slotsOf, List.map_map]
    exact hfields.nodup
  induction hgives generalizing start with
  | nil => rfl
  | @cons value row values rows hvalue _ ih =>
    obtain ⟨name, value⟩ := value
    obtain ⟨hkey, hread⟩ := hvalue
    obtain ⟨hname, hrest⟩ := List.cons_subset.mp hnames
    obtain ⟨field, hfield, rfl⟩ := List.mem_map.mp hname
    have hput : ∀ span, (Slot.ofField field read).read span row.2 = .ok (field.put value) := by
      intro span
      change (read span row.2).map field.put = _
      rw [hread]
      rfl
    rw [readPairs_of_mem hslots (List.mem_map_of_mem hfield) hkey hput, ih hrest,
      hfields.assign_cons hfield]

/-- The lines of a record give its values. -/
theorem rowReadsAs_of_numbers {fields : List (Field Record Binary64)}
    {hnames : ∀ field ∈ fields, IsBareName field.name.toList} {record : Record} {rows : Table}
    (hrows : List.Forall₂ Entry.IsRow (Entry.numbers fields hnames record) rows) :
    List.Forall₂ (RowReadsAs readNumber) (Field.values fields record) rows := by
  rw [Entry.numbers, List.forall₂_map_left_iff] at hrows
  rw [Entry.values_eq_attach, List.forall₂_map_left_iff]
  refine hrows.imp fun field row hrow => ⟨hrow.name, fun place => ?_⟩
  obtain ⟨span, hnode⟩ := hrow.exists_span
  rw [hnode]
  rfl

/-- The figures of a record are read as the record. -/
theorem readPairs_numbers {fields : List (Field Record Binary64)}
    (hfields : Field.MakeUp fields)
    {hnames : ∀ field ∈ fields, IsBareName field.name.toList} {record : Record} {rows : Table}
    (hrows : List.Forall₂ Entry.IsRow (Entry.numbers fields hnames record) rows)
    (start : Record) : readPairs (slotsOf readNumber fields) rows start = .ok record := by
  have hvalues : (Field.values fields record).Perm (Field.values fields record) := .refl _
  rw [readPairs_of_rowReadsAs hfields (rowReadsAs_of_numbers hrows)
    (Field.names_of_perm hvalues).subset, hfields.assign_of_perm hvalues]

end Toml

end ResourceHealth
