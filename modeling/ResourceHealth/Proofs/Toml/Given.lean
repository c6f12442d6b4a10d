import Mathlib
import ResourceHealth.Files.Path
import ResourceHealth.Proofs.Toml.Read
import ResourceHealth.Proofs.Toml.WellFormed

/-!
# Records that a table gives in part

A record is read from a table that gives some of its parts, in any order and among other keys.
A part that is given gets the given value, a part that is not given keeps the value that it had
before, and if a part is given with something that is no value of its kind, there is no record.

What a table gives is stated by membership, so neither the order of its keys nor the keys that
name no part of the record can play a role.

Main definitions:

- `Toml.Table.Has`: a table gives a node for a name.
- `Toml.Table.Sets`: what a name is set to, by the table or by default.
- `Toml.Table.HasMistyped`: a table gives something for a name that is no value of its kind.
- `Toml.Slot.Stores`: a slot stores what a table gives for its name in one part of a record.

Main results:

- Theorem `Toml.Slot.Stores.sets`: a record that is read has the part that the table sets.
- Theorem `Toml.Slot.Stores.exists_error`: a part that is mistyped is refused.
- Theorem `Toml.exists_readPairs_eq`: otherwise there is a record.
- Theorem `Toml.readPairs_slotsOf_eq_ok_iff`: the records whose parts are all read in one way.
-/

namespace ResourceHealth

namespace Toml

variable {Record Value Raw : Type}

/-! ## What a table gives -/

namespace Table

/-- The table gives the node for the name. -/
def Has (table : Table) (name : String) (node : Node) : Prop :=
  ∃ key : Key, key.name = name.toList ∧ (key, node) ∈ table

/-- What a name is set to: the value that the table gives for it, or what it is without. -/
inductive Sets (view : Node → Option Value) (table : Table) (name : String) (start : Value) :
    Value → Prop
  | given {node : Node} {value : Value} (hhas : Has table name node)
      (hview : view node = some value) : Sets view table name start value
  | absent (habsent : ∀ node, ¬ Has table name node) : Sets view table name start start

/-- The table gives something for the name that is no value of its kind. -/
def HasMistyped (view : Node → Option Value) (table : Table) (name : String) : Prop :=
  ∃ node, Has table name node ∧ view node = none

variable {table other : Table} {name : String} {node : Node} {view : Node → Option Value}
  {start value : Value}

/-- What is found under a name is given for it. -/
theorem has_of_find? (h : find? table name.toList = some node) : Has table name node := by
  obtain ⟨⟨key, found⟩, hfind, rfl⟩ := Option.map_eq_some_iff.mp h
  exact ⟨key, by simpa using List.find?_some hfind, List.mem_of_find?_eq_some hfind⟩

/-- A name is set to what the table gives for it or, where nothing is given, to what it is without.
-/
theorem sets_iff :
    Sets view table name start value ↔
      (∃ node, Has table name node ∧ view node = some value) ∨
        (∀ node, ¬ Has table name node) ∧ value = start := by
  constructor
  · rintro (⟨hhas, hview⟩ | habsent)
    · exact Or.inl ⟨_, hhas, hview⟩
    · exact Or.inr ⟨habsent, rfl⟩
  · rintro (⟨node, hhas, hview⟩ | ⟨habsent, rfl⟩)
    · exact .given hhas hview
    · exact .absent habsent

theorem not_has_nil : ¬ Has [] name node := by
  rintro ⟨_, _, hmem⟩
  cases hmem

/-- One more row gives what is given below it, and its own node for its own key. -/
theorem has_cons {key : Key} {first : Node} :
    Has ((key, first) :: table) name node ↔
      key.name = name.toList ∧ node = first ∨ Has table name node := by
  constructor
  · rintro ⟨other, hname, hmem⟩
    rcases List.mem_cons.mp hmem with heq | hmem
    · cases heq
      exact Or.inl ⟨hname, rfl⟩
    · exact Or.inr ⟨other, hname, hmem⟩
  · rintro (⟨hname, rfl⟩ | ⟨other, hname, hmem⟩)
    · exact ⟨key, hname, List.mem_cons_self⟩
    · exact ⟨other, hname, List.mem_cons_of_mem _ hmem⟩

/-- A row of another name sets nothing. -/
theorem Sets.cons_of_ne {key : Key} (h : Sets view table name start value)
    (hne : key.name ≠ name.toList) (node : Node) :
    Sets view ((key, node) :: table) name start value := by
  rcases sets_iff.mp h with ⟨given, hhas, hview⟩ | ⟨habsent, rfl⟩
  · exact .given (has_cons.mpr (Or.inr hhas)) hview
  · refine .absent fun other hother => ?_
    rcases has_cons.mp hother with ⟨hname, -⟩ | hhas
    · exact hne hname
    · exact habsent other hhas

/-- A row that gives a value sets the name to it, unless it is set below. -/
theorem Sets.cons {key : Key} {first : Value} (h : Sets view table name first value)
    (hname : key.name = name.toList) (hview : view node = some first) :
    Sets view ((key, node) :: table) name start value := by
  rcases sets_iff.mp h with ⟨given, hhas, hgiven⟩ | ⟨-, rfl⟩
  · exact .given (has_cons.mpr (Or.inr hhas)) hgiven
  · exact .given (has_cons.mpr (Or.inl ⟨hname, rfl⟩)) hview

section Nodup

variable (hnodup : (table.map (·.1.name)).Nodup)
include hnodup

/-- A table without repeated keys gives one node for a name. -/
theorem Has.unique {second : Node} (hfirst : Has table name node)
    (hsecond : Has table name second) : node = second := by
  obtain ⟨key, hname, hmem⟩ := hfirst
  obtain ⟨key', hname', hmem'⟩ := hsecond
  have heq := List.inj_on_of_nodup_map hnodup hmem hmem' (hname.trans hname'.symm)
  exact congrArg Prod.snd heq

/-- A given node is a value, where the name is set. -/
theorem Sets.view_eq (h : Sets view table name start value) (hhas : Has table name node) :
    view node = some value := by
  cases h with
  | given hother hview => rwa [hhas.unique hnodup hother]
  | absent habsent => exact absurd hhas (habsent node)

theorem Sets.unique {second : Value} (hfirst : Sets view table name start value)
    (hsecond : Sets view table name start second) : value = second := by
  cases hfirst with
  | given hhas hview => exact Option.some.inj (hview.symm.trans (hsecond.view_eq hnodup hhas))
  | absent habsent =>
    cases hsecond with
    | given hhas _ => exact absurd hhas (habsent _)
    | absent _ => rfl

/-- A name that is set is not mistyped. -/
theorem Sets.not_hasMistyped (h : Sets view table name start value) :
    ¬ HasMistyped view table name := by
  rintro ⟨node, hhas, hview⟩
  rw [h.view_eq hnodup hhas] at hview
  cases hview

/-- What is made of a value is set to what is made of the value that is set. -/
theorem Sets.bind_iff {inner : Value} {f : Value → Option Raw} {first result : Raw}
    (h : Sets view table name start inner) (hfirst : f start = some first) :
    Sets (fun node => (view node).bind f) table name first result ↔ f inner = some result := by
  cases h with
  | given hhas hview =>
    constructor
    · intro hresult
      have hbind := hresult.view_eq hnodup hhas
      rwa [hview] at hbind
    · intro hresult
      refine .given hhas ?_
      rwa [hview]
  | absent habsent =>
    rw [hfirst, Option.some.injEq]
    constructor
    · intro hresult
      cases hresult with
      | given hhas _ => exact absurd hhas (habsent _)
      | absent _ => rfl
    · rintro rfl
      exact .absent habsent

/-- A value that is read in two steps is mistyped exactly where the second step refuses what the
first gives. -/
theorem Sets.hasMistyped_bind_iff {inner : Value} {f : Value → Option Raw} {first : Raw}
    (h : Sets view table name start inner) (hfirst : f start = some first) :
    HasMistyped (fun node => (view node).bind f) table name ↔ f inner = none := by
  cases h with
  | given hhas hview =>
    constructor
    · rintro ⟨other, hother, hbind⟩
      obtain rfl := hhas.unique hnodup hother
      simpa only [hview, Option.bind_some] using hbind
    · intro hnone
      exact ⟨_, hhas, by simpa only [hview, Option.bind_some] using hnone⟩
  | absent habsent =>
    refine iff_of_false ?_ (by simp [hfirst])
    rintro ⟨node, hhas, -⟩
    exact habsent node hhas

end Nodup

end Table

/-! ## Scalars -/

/-- The scalar that a node is. -/
def Node.scalar? : Node → Option Scalar
  | .scalar value _ => some value
  | _ => none

/-- The table that a node is. -/
def Node.table? : Node → Option Table
  | .table _ _ pairs => some pairs
  | _ => none

/-- A scalar as a counter: an integer that is not negative. -/
def Scalar.counter? : Scalar → Option Nat
  | .integer value => if value < 0 then none else some value.toNat
  | _ => none

/-- A scalar as a boolean. -/
def Scalar.boolean? : Scalar → Option Bool
  | .boolean value => some value
  | _ => none

/-- A scalar as a path: a string. -/
def Scalar.path? : Scalar → Option Path
  | .string text => some (Path.ofText text)
  | _ => none

/-- A scalar as a number: a float, or an integer, which is converted. -/
def Scalar.number? : Scalar → Option Binary64
  | .float value => some value
  | .integer value => some (Binary64.ofInt value)
  | _ => none

/-- A node as what its scalar is. -/
def Node.holding (view : Scalar → Option Value) (node : Node) : Option Value :=
  node.scalar?.bind view

/-- Two tables give the same scalars for a name, wherever these stand. -/
def Table.Agree (table other : Table) (name : String) : Prop :=
  ∀ content : Option Scalar, (∃ node, Has table name node ∧ node.scalar? = content) ↔
    ∃ node, Has other name node ∧ node.scalar? = content

namespace Table

variable {table other : Table} {name : String} {view : Scalar → Option Value}
  {start value : Value}

theorem Agree.symm (h : Agree table other name) : Agree other table name :=
  fun content => (h content).symm

/-- Tables that agree on a name set it to the same value. -/
theorem Agree.sets (h : Agree table other name)
    (hsets : Sets (Node.holding view) table name start value) :
    Sets (Node.holding view) other name start value := by
  cases hsets with
  | given hhas hview =>
    obtain ⟨node, hnode, hscalar⟩ := (h _).mp ⟨_, hhas, rfl⟩
    refine .given hnode ?_
    rwa [Node.holding, hscalar]
  | absent habsent =>
    refine .absent fun node hnode => ?_
    obtain ⟨node, hhas, -⟩ := (h _).mpr ⟨node, hnode, rfl⟩
    exact habsent node hhas

end Table

/-! ## Readers -/

/-- A reader takes a node for the value as which it is viewed, and refuses it if there is
none. -/
def ReadsAs (read : NodeReader Value) (view : Node → Option Value) (node : Node) : Prop :=
  ∀ span, match view node with
    | some value => read span node = .ok value
    | none => ∃ misfit, read span node = .error misfit

/-- A node that is a value is read as it. -/
theorem ReadsAs.ok {read : NodeReader Value} {view : Node → Option Value} {node : Node}
    (h : ReadsAs read view node) {value : Value} (hview : view node = some value) (span : Span) :
    read span node = .ok value := by
  have hspan := h span
  rwa [hview] at hspan

theorem ReadsAs.error {read : NodeReader Value} {view : Node → Option Value} {node : Node}
    (h : ReadsAs read view node) (hview : view node = none) (span : Span) :
    ∃ misfit, read span node = .error misfit := by
  have hspan := h span
  rwa [hview] at hspan

/-- Counters are read as the integers that are counters. -/
theorem readsAs_readCounter (node : Node) :
    ReadsAs readCounter (Node.holding Scalar.counter?) node := by
  intro span
  match node with
  | .scalar (.integer value) _ =>
    by_cases hneg : value < 0
    · simp [Node.holding, Node.scalar?, Scalar.counter?, readCounter, hneg]
    · simp [Node.holding, Node.scalar?, Scalar.counter?, readCounter, hneg]
  | .scalar (.string _) _ | .scalar (.float _) _ | .scalar (.boolean _) _ | .scalar .dateTime _
  | .array _ _ | .table _ _ _ | .tables _ _ => exact ⟨_, rfl⟩

theorem readsAs_readBoolean (node : Node) :
    ReadsAs readBoolean (Node.holding Scalar.boolean?) node := by
  intro span
  match node with
  | .scalar (.boolean value) _ => exact rfl
  | .scalar (.string _) _ | .scalar (.integer _) _ | .scalar (.float _) _ | .scalar .dateTime _
  | .array _ _ | .table _ _ _ | .tables _ _ => exact ⟨_, rfl⟩

theorem readsAs_readNumber (node : Node) :
    ReadsAs readNumber (Node.holding Scalar.number?) node := by
  intro span
  match node with
  | .scalar (.float value) _ | .scalar (.integer value) _ => exact rfl
  | .scalar (.string _) _ | .scalar (.boolean _) _ | .scalar .dateTime _
  | .array _ _ | .table _ _ _ | .tables _ _ => exact ⟨_, rfl⟩

/-- Paths are read as the strings. -/
theorem readsAs_readText (expected : Expected) (node : Node) :
    ReadsAs (fun span node => (readText expected span node).map Path.ofText)
      (Node.holding Scalar.path?) node := by
  intro span
  match node with
  | .scalar (.string text) _ => exact rfl
  | .scalar (.integer _) _ | .scalar (.float _) _ | .scalar (.boolean _) _ | .scalar .dateTime _
  | .array _ _ | .table _ _ _ | .tables _ _ => exact ⟨_, rfl⟩

/-! ## Slots -/

variable {slots : List (Slot Record)} {slot : Slot Record} {table : Table} {start record : Record}

/-- A slot leaves a part of a record as it is. -/
def Slot.Keeps (slot : Slot Record) (get : Record → Value) : Prop :=
  ∀ span node put, slot.read span node = .ok put → ∀ record, get (put record) = get record

/-- A slot that puts its values elsewhere leaves a part as it is. -/
theorem Slot.Keeps.of_map {get : Record → Value} {read : NodeReader Raw}
    {put : Raw → Record → Record}
    (hread : ∀ span node, slot.read span node = (read span node).map put)
    (hget : ∀ value record, get (put value record) = get record) : slot.Keeps get := by
  intro span node taken htaken record
  rw [hread] at htaken
  cases hvalue : read span node with
  | error misfit =>
    rw [hvalue] at htaken
    cases htaken
  | ok value =>
    rw [hvalue] at htaken
    cases htaken
    exact hget value record

/-- A slot of a record stores what a table gives for its name, and no other slot touches what it
stores. -/
structure Slot.Stores (slots : List (Slot Record)) (table : Table) (view : Node → Option Value)
    (get : Record → Value) (slot : Slot Record) : Prop where
  mem : slot ∈ slots
  nodup : (slots.map (·.name)).Nodup
  ok : ∀ {node value}, Table.Has table slot.name node → view node = some value → ∀ span,
    ∃ put, slot.read span node = .ok put ∧ ∀ record, get (put record) = value
  error : ∀ {node}, Table.Has table slot.name node → view node = none → ∀ span,
    ∃ misfit, slot.read span node = .error misfit
  keeps : ∀ other ∈ slots, other.name ≠ slot.name → other.Keeps get

/-- A row names no slot and is passed over, or it is read by a slot that it names. -/
theorem readPairs_cons (slots : List (Slot Record)) (key : Key) (node : Node) (rest : Table)
    (record : Record) :
    (∀ slot ∈ slots, key.name ≠ slot.name.toList) ∧
        readPairs slots ((key, node) :: rest) record = readPairs slots rest record ∨
      ∃ slot ∈ slots, key.name = slot.name.toList ∧ ∃ span,
        readPairs slots ((key, node) :: rest) record =
          (slot.read span node).bind fun put => readPairs slots rest (put record) := by
  cases hfind : slots.find? (·.name.toList == key.name) with
  | none =>
    refine Or.inl ⟨fun slot hslot hname => ?_, by rw [readPairs, hfind]⟩
    have hne := List.find?_eq_none.mp hfind slot hslot
    simp [hname] at hne
  | some slot =>
    have hname : slot.name.toList = key.name := by simpa using List.find?_some hfind
    refine Or.inr ⟨slot, List.mem_of_find?_eq_some hfind, hname.symm,
      node.span?.getD key.span, ?_⟩
    rw [readPairs, hfind]
    dsimp only
    cases slot.read (node.span?.getD key.span) node <;> rfl

/-- If every slot takes what the table gives for it, there is a record. -/
theorem exists_readPairs_eq
    (h : ∀ slot ∈ slots, ∀ node, Table.Has table slot.name node → ∀ span,
      ∃ put, slot.read span node = .ok put) (start : Record) :
    ∃ record, readPairs slots table start = .ok record := by
  induction table generalizing start with
  | nil => exact ⟨start, rfl⟩
  | cons row rest ih =>
    obtain ⟨key, node⟩ := row
    have hrest := ih fun slot hslot other hhas span =>
      h slot hslot other (Table.has_cons.mpr (Or.inr hhas)) span
    rcases readPairs_cons slots key node rest start with
      ⟨-, heq⟩ | ⟨slot, hslot, hname, span, heq⟩
    · rw [heq]
      exact hrest start
    · obtain ⟨put, hput⟩ := h slot hslot node (Table.has_cons.mpr (Or.inl ⟨hname, rfl⟩)) span
      rw [heq, hput]
      exact hrest (put start)

namespace Slot.Stores

variable {view : Node → Option Value} {get : Record → Value}

/-- What is stored from a table is stored from the rows below the first. -/
theorem of_cons {key : Key} {node : Node}
    (h : slot.Stores slots ((key, node) :: table) view get) :
    slot.Stores slots table view get where
  mem := h.mem
  nodup := h.nodup
  ok hhas := h.ok (Table.has_cons.mpr (Or.inr hhas))
  error hhas := h.error (Table.has_cons.mpr (Or.inr hhas))
  keeps := h.keeps

/-- A slot that stores a part is the only one of its name. -/
theorem eq_of_name_eq (h : slot.Stores slots table view get) {other : Slot Record}
    (hother : other ∈ slots) (hname : other.name = slot.name) : other = slot :=
  List.inj_on_of_nodup_map h.nodup hother h.mem hname

/-- If what is given for a slot is of its kind, the slot takes it. -/
theorem exists_put (h : slot.Stores slots table view get)
    (hgiven : ¬ Table.HasMistyped view table slot.name) {node : Node}
    (hhas : Table.Has table slot.name node) (span : Span) :
    ∃ put, slot.read span node = .ok put := by
  cases hview : view node with
  | none => exact absurd ⟨node, hhas, hview⟩ hgiven
  | some value =>
    obtain ⟨put, hput, -⟩ := h.ok hhas hview span
    exact ⟨put, hput⟩

/-- What a slot takes is what the node is viewed as. -/
theorem view_of_read (h : slot.Stores slots table view get) {node : Node}
    (hhas : Table.Has table slot.name node) {span : Span} {put : Record → Record}
    (hread : slot.read span node = .ok put) :
    ∃ value, view node = some value ∧ ∀ record, get (put record) = value := by
  cases hview : view node with
  | none =>
    obtain ⟨misfit, hmisfit⟩ := h.error hhas hview span
    rw [hread] at hmisfit
    cases hmisfit
  | some value =>
    obtain ⟨taken, htaken, hget⟩ := h.ok hhas hview span
    rw [hread] at htaken
    cases htaken
    exact ⟨value, rfl, hget⟩

/-- A record that is read has the part that the table sets. -/
theorem sets (h : slot.Stores slots table view get)
    (hrecord : readPairs slots table start = .ok record) :
    Table.Sets view table slot.name (get start) (get record) := by
  induction table generalizing start with
  | nil =>
    cases hrecord
    exact .absent fun node => Table.not_has_nil
  | cons row rest ih =>
    obtain ⟨key, node⟩ := row
    rcases readPairs_cons slots key node rest start with
      ⟨hskip, heq⟩ | ⟨other, hmem, hname, span, heq⟩
    · rw [heq] at hrecord
      exact (ih h.of_cons hrecord).cons_of_ne (hskip slot h.mem) node
    · rw [heq] at hrecord
      cases hread : other.read span node with
      | error misfit =>
        rw [hread] at hrecord
        cases hrecord
      | ok put =>
        rw [hread] at hrecord
        have hrest := ih h.of_cons hrecord
        by_cases hown : other.name = slot.name
        · obtain rfl := h.eq_of_name_eq hmem hown
          obtain ⟨value, hview, hget⟩ :=
            h.view_of_read (Table.has_cons.mpr (Or.inl ⟨hname, rfl⟩)) hread
          rw [hget] at hrest
          exact hrest.cons hname hview
        · rw [h.keeps other hmem hown span node put hread] at hrest
          exact hrest.cons_of_ne (fun heq => hown (String.toList_inj.mp (hname ▸ heq))) node

/-- If a part is mistyped there is no record; what is reported is the first misfit, which may be
another one. -/
theorem exists_error (h : slot.Stores slots table view get)
    (hmistyped : Table.HasMistyped view table slot.name) (start : Record) :
    ∃ misfit, readPairs slots table start = .error misfit := by
  obtain ⟨given, hhas, hview⟩ := hmistyped
  induction table generalizing start with
  | nil => exact absurd hhas Table.not_has_nil
  | cons row rest ih =>
    obtain ⟨key, node⟩ := row
    rcases readPairs_cons slots key node rest start with
      ⟨hskip, heq⟩ | ⟨other, hmem, hname, span, heq⟩
    · rcases Table.has_cons.mp hhas with ⟨hown, -⟩ | hbelow
      · exact absurd hown (hskip slot h.mem)
      · rw [heq]
        exact ih h.of_cons start hbelow
    · rw [heq]
      rcases Table.has_cons.mp hhas with ⟨hown, rfl⟩ | hbelow
      · obtain rfl := h.eq_of_name_eq hmem (String.toList_inj.mp (hname ▸ hown))
        obtain ⟨misfit, hmisfit⟩ := h.error hhas hview span
        exact ⟨misfit, by rw [hmisfit]; rfl⟩
      · cases other.read span node with
        | error misfit => exact ⟨misfit, rfl⟩
        | ok put => exact ih h.of_cons (put start) hbelow

/-- A slot whose reader follows a view stores what is viewed. -/
theorem of_readsAs {read : NodeReader Value} {put : Value → Record → Record}
    (hmem : slot ∈ slots) (hnodup : (slots.map (·.name)).Nodup)
    (hread : ∀ span node, slot.read span node = (read span node).map put)
    (hreadsAs : ∀ node, Table.Has table slot.name node → ReadsAs read view node)
    (hput : ∀ value record, get (put value record) = value)
    (hkeeps : ∀ other ∈ slots, other.name ≠ slot.name → other.Keeps get) :
    slot.Stores slots table view get where
  mem := hmem
  nodup := hnodup
  ok {node value} hhas hview span := by
    refine ⟨put value, ?_, hput value⟩
    rw [hread, (hreadsAs node hhas).ok hview]
    rfl
  error {node} hhas hview span := by
    obtain ⟨misfit, hmisfit⟩ := (hreadsAs node hhas).error hview span
    refine ⟨misfit, ?_⟩
    rw [hread, hmisfit]
    rfl
  keeps := hkeeps

end Slot.Stores

/-! ## Records whose parts are all read in one way -/

section SlotsOf

variable {fields : List (Field Record Value)} {read : NodeReader Value}
  {view : Node → Option Value}

/-- The slots of a record have names that differ from each other. -/
theorem nodup_slotsOf (hfields : Field.MakeUp fields) (read : NodeReader Value) :
    ((slotsOf read fields).map (·.name)).Nodup := by
  rw [slotsOf, List.map_map]
  exact hfields.nodup

/-- The slot of a field stores the part that the field is. -/
theorem stores_ofField (hfields : Field.MakeUp fields) (hreadsAs : ∀ node, ReadsAs read view node)
    {field : Field Record Value} (hfield : field ∈ fields) (table : Table) :
    (Slot.ofField field read).Stores (slotsOf read fields) table view field.get := by
  refine .of_readsAs (List.mem_map_of_mem hfield) (nodup_slotsOf hfields read)
    (fun _ _ => rfl) (fun node _ => hreadsAs node) (fun value record => ?_) ?_
  · rw [hfields.get_put field hfield field hfield, if_pos rfl]
  · intro other hother hne
    obtain ⟨otherField, hotherField, rfl⟩ := List.mem_map.mp hother
    refine .of_map (fun _ _ => rfl) fun value record => ?_
    rw [hfields.get_put otherField hotherField field hfield]
    exact if_neg hne

/-- If no field is mistyped there is a record. -/
theorem exists_readPairs_slotsOf_eq (hfields : Field.MakeUp fields)
    (hreadsAs : ∀ node, ReadsAs read view node)
    (hgiven : ∀ field ∈ fields, ¬ Table.HasMistyped view table field.name) (start : Record) :
    ∃ record, readPairs (slotsOf read fields) table start = .ok record := by
  refine exists_readPairs_eq (fun slot hslot node hhas span => ?_) start
  obtain ⟨field, hfield, rfl⟩ := List.mem_map.mp hslot
  exact (stores_ofField hfields hreadsAs hfield table).exists_put (hgiven field hfield) hhas span

/-- The record has what the table sets for each of its fields. -/
theorem readPairs_slotsOf_eq_ok_iff (hfields : Field.MakeUp fields)
    (hreadsAs : ∀ node, ReadsAs read view node) (hnodup : (table.map (·.1.name)).Nodup) :
    readPairs (slotsOf read fields) table start = .ok record ↔
      ∀ field ∈ fields, Table.Sets view table field.name (field.get start) (field.get record) := by
  constructor
  · intro hrecord field hfield
    exact (stores_ofField hfields hreadsAs hfield table).sets hrecord
  · intro hsets
    obtain ⟨other, hother⟩ := exists_readPairs_slotsOf_eq hfields hreadsAs
      (fun field hfield => (hsets field hfield).not_hasMistyped hnodup) start
    rw [hother, hfields.ext other record fun field hfield =>
      ((stores_ofField hfields hreadsAs hfield table).sets hother).unique hnodup
        (hsets field hfield)]

/-- A record is refused exactly where one of its fields is mistyped. -/
theorem exists_readPairs_slotsOf_eq_error_iff (hfields : Field.MakeUp fields)
    (hreadsAs : ∀ node, ReadsAs read view node) :
    (∃ misfit, readPairs (slotsOf read fields) table start = .error misfit) ↔
      ∃ field ∈ fields, Table.HasMistyped view table field.name := by
  constructor
  · rintro ⟨misfit, hmisfit⟩
    by_contra hnone
    have hgiven : ∀ field ∈ fields, ¬ Table.HasMistyped view table field.name :=
      fun field hfield hmistyped => hnone ⟨field, hfield, hmistyped⟩
    obtain ⟨record, hrecord⟩ := exists_readPairs_slotsOf_eq hfields hreadsAs hgiven start
    rw [hmisfit] at hrecord
    cases hrecord
  · rintro ⟨field, hfield, hmistyped⟩
    exact (stores_ofField hfields hreadsAs hfield table).exists_error hmistyped start

end SlotsOf

end Toml

end ResourceHealth
