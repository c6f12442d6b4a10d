import Mathlib
import ResourceHealth.Proofs.Toml.Document

/-!
# Documents are well formed

Whatever a document is put together from, pairs, dotted keys, headers and inline tables, each
of its tables gives a key once, and its integers have 64 bits.  So a document says at most one
thing of a key, and it does not matter where.

Main definitions:

- `Toml.Node.WellFormed`, `Toml.Table.WellFormed`: every table gives each key once, every
  integer has 64 bits.

Main results:

- Theorem `Toml.Table.WellFormed.change`: a change below a path keeps a table well formed.
- Theorem `Toml.wellFormed_of_value?`: values are well formed.
- Theorem `Toml.wellFormed_of_document?`: documents are well formed.
-/

namespace ResourceHealth

namespace Toml

/-- A scalar that is no integer, or an integer of 64 bits. -/
def Scalar.WellFormed : Scalar → Prop
  | .integer value => inRange value = true
  | _ => True

/-- Every table below a node gives each key once, and every integer has 64 bits. -/
inductive Node.WellFormed : Node → Prop
  | scalar {value : Scalar} (hvalue : value.WellFormed) (span : Span) :
      WellFormed (.scalar value span)
  | array {items : List Node} (hitems : ∀ item ∈ items, WellFormed item) (span : Span) :
      WellFormed (.array items span)
  | table {pairs : List (Key × Node)} (hkeys : (pairs.map (·.1.name)).Nodup)
      (hnodes : ∀ pair ∈ pairs, WellFormed pair.2) (form : Form) (span : Option Span) :
      WellFormed (.table form span pairs)
  | tables {elements : List Node} (helements : ∀ element ∈ elements, WellFormed element)
      (span : Span) : WellFormed (.tables elements span)

/-- The magnitude of a well-formed integer is a counter. -/
theorem Node.WellFormed.natAbs_lt {value : Int} {span : Span}
    (h : (Node.scalar (.integer value) span).WellFormed) : value.natAbs < Counter.limit := by
  obtain ⟨hvalue⟩ := h
  have hrange : -(2 ^ 63 : Int) ≤ value ∧ value < 2 ^ 63 := by
    simpa [Scalar.WellFormed, inRange] using hvalue
  have hlimit : Counter.limit = 2 ^ 64 := rfl
  omega

/-- A table that gives each key once, and so does every table below it. -/
structure Table.WellFormed (table : Table) : Prop where
  nodup : (table.map (·.1.name)).Nodup
  nodes : ∀ pair ∈ table, pair.2.WellFormed

namespace Table.WellFormed

variable {table : Table} {key : Key} {node : Node} {name : List Char}

/-! ## Changing a table -/

theorem nil : Table.WellFormed [] :=
  ⟨List.nodup_nil, List.forall_mem_nil _⟩

/-- The node of a well-formed table is well-formed. -/
theorem toNode (h : Table.WellFormed table) (form : Form) (span : Option Span) :
    (Node.table form span table).WellFormed :=
  .table h.nodup h.nodes form span

theorem of_node {form : Form} {span : Option Span} (h : (Node.table form span table).WellFormed) :
    Table.WellFormed table := by
  cases h with
  | table hkeys hnodes => exact ⟨hkeys, hnodes⟩

/-- What is found in a well-formed table is well-formed. -/
theorem of_find? (h : Table.WellFormed table) (hfind : Table.find? table name = some node) :
    node.WellFormed := by
  obtain ⟨pair, hpair, rfl⟩ := Option.map_eq_some_iff.mp hfind
  exact h.nodes pair (List.mem_of_find?_eq_some hpair)

/-- A key that is not there may be added. -/
theorem append (h : Table.WellFormed table) (hnew : Table.find? table key.name = none)
    (hnode : node.WellFormed) : Table.WellFormed (table ++ [(key, node)]) := by
  constructor
  · rw [List.map_append, List.nodup_append]
    refine ⟨h.nodup, List.nodup_singleton _, ?_⟩
    intro name hname other hother heq
    rw [List.map_singleton, List.mem_singleton] at hother
    exact find?_eq_none_iff.mp hnew (hother ▸ heq ▸ hname)
  · intro pair hpair
    rcases List.mem_append.mp hpair with hpair | hpair
    · exact h.nodes pair hpair
    · rw [List.mem_singleton.mp hpair]
      exact hnode

/-- A key that is there may get another node. -/
theorem replace (h : Table.WellFormed table) (hnode : node.WellFormed) (name : List Char) :
    Table.WellFormed (Table.replace table name node) := by
  have hnames : (Table.replace table name node).map (·.1.name) = table.map (·.1.name) := by
    rw [Table.replace, List.map_map]
    refine List.map_congr_left fun pair _ => ?_
    simp only [Function.comp_apply]
    split <;> rfl
  refine ⟨hnames ▸ h.nodup, fun pair hpair => ?_⟩
  obtain ⟨before, hbefore, rfl⟩ := List.mem_map.mp hpair
  split
  · exact hnode
  · exact h.nodes before hbefore

/-- Taking a name out of a well-formed table leaves it well-formed. -/
theorem erase (h : Table.WellFormed table) (name : List Char) :
    Table.WellFormed (Table.erase table name) :=
  ⟨h.nodup.sublist (List.filter_sublist.map _),
    fun pair hpair => h.nodes pair (List.mem_of_mem_filter hpair)⟩

/-- A name that is taken out is not found any more. -/
theorem find?_erase (table : Table) (name : List Char) :
    Table.find? (Table.erase table name) name = none := by
  rw [find?_eq_none_iff, Table.erase]
  simp

/-- A change below a path keeps a table well formed if it does so at the end of the path. -/
theorem change {way : Form} {f : Form → Table → Option Table}
    (hf : ∀ form inner grown, Table.WellFormed inner → f form inner = some grown →
      Table.WellFormed grown)
    {path : List Key} {form : Form} {grown : Table} (h : Table.WellFormed table)
    (hgrown : Table.change way f path form table = some grown) : Table.WellFormed grown := by
  induction path generalizing form table grown with
  | nil => exact hf form table grown h hgrown
  | cons key path ih =>
    rw [Table.change] at hgrown
    split at hgrown
    · -- a key that is missing is added with the table below it
      rename_i hmissing
      obtain ⟨inner, hinner, rfl⟩ := Option.map_eq_some_iff.mp hgrown
      exact h.append hmissing ((ih nil hinner).toNode way none)
    · rename_i hfind
      split at hgrown
      · obtain ⟨inner, hinner, rfl⟩ := Option.map_eq_some_iff.mp hgrown
        exact h.replace ((ih (of_node (h.of_find? hfind)) hinner).toNode _ _) key.name
      · cases hgrown
    · -- of tables that share a key the newest is changed
      rename_i elements span hfind
      have helements : ∀ element ∈ elements, element.WellFormed := by
        cases h.of_find? hfind with
        | tables helements => exact helements
      split at hgrown
      · rename_i hlast
        obtain ⟨inner, hinner, rfl⟩ := Option.map_eq_some_iff.mp hgrown
        have hnewest := helements _ (List.mem_of_getLast? hlast)
        refine h.replace (.tables ?_ span) key.name
        intro element helement
        rcases List.mem_append.mp helement with helement | helement
        · exact helements element (List.mem_of_mem_dropLast helement)
        · rw [List.mem_singleton.mp helement]
          exact (ih (of_node hnewest) hinner).toNode _ _
      · cases hgrown
    · cases hgrown

/-- Inserting a well-formed node keeps a table well-formed. -/
theorem insert {path : List Key} {form : Form} {grown : Table} (h : Table.WellFormed table)
    (hnode : node.WellFormed) (hgrown : Table.insert path key node form table = some grown) :
    Table.WellFormed grown := by
  refine h.change (fun form inner grown hinner hgrown => ?_) hgrown
  split at hgrown
  · cases hgrown
  · rename_i hfree
    cases hgrown
    refine hinner.append ?_ hnode
    simpa using fun hsome => hfree (Or.inr hsome)

end Table.WellFormed

/-! ## Scalars -/

/-- An integer that is read has 64 bits. -/
theorem wellFormed_of_boundedInteger {value : Int} {scalar : Scalar}
    (h : boundedInteger value = some scalar) : scalar.WellFormed := by
  unfold boundedInteger at h
  split at h
  · rename_i hrange
    cases h
    exact hrange
  · cases h

theorem wellFormed_of_basedInteger? {base : Nat} {text rest : List Char} {scalar : Scalar}
    (h : basedInteger? base text = some (scalar, rest)) : scalar.WellFormed := by
  unfold basedInteger? at h
  split at h
  · cases h
  · obtain ⟨bounded, hbounded, heq⟩ := Option.map_eq_some_iff.mp h
    cases heq
    exact wellFormed_of_boundedInteger hbounded

theorem wellFormed_of_integer? {text rest : List Char} {scalar : Scalar}
    (h : integer? text = some (scalar, rest)) : scalar.WellFormed := by
  unfold integer? at h
  split at h
  · exact wellFormed_of_basedInteger? h
  · exact wellFormed_of_basedInteger? h
  · exact wellFormed_of_basedInteger? h
  · simp only at h
    split at h
    · cases h
    · obtain ⟨bounded, hbounded, heq⟩ := Option.map_eq_some_iff.mp h
      cases heq
      exact wellFormed_of_boundedInteger hbounded

/-- A float is well-formed. -/
theorem wellFormed_of_boundedFloat {value : Binary64} {scalar : Scalar}
    (h : boundedFloat value = some scalar) : scalar.WellFormed := by
  unfold boundedFloat at h
  split at h
  · cases h
  · cases h
    trivial

theorem wellFormed_of_float? {text rest : List Char} {scalar : Scalar}
    (h : float? text = some (scalar, rest)) : scalar.WellFormed := by
  unfold float? at h
  simp only at h
  split at h
  · unfold specialFloat? at h
    split at h
    · cases h
      trivial
    · cases h
      trivial
    · cases h
  · split at h
    · obtain ⟨bounded, hbounded, heq⟩ := Option.map_eq_some_iff.mp h
      cases heq
      exact wellFormed_of_boundedFloat hbounded
    · split at h
      · obtain ⟨bounded, hbounded, heq⟩ := Option.map_eq_some_iff.mp h
        cases heq
        exact wellFormed_of_boundedFloat hbounded
      · cases h

theorem wellFormed_of_scalar? {text rest : List Char} {scalar : Scalar}
    (h : scalar? text = some (scalar, rest)) : scalar.WellFormed := by
  unfold scalar? at h
  split at h
  · cases h
    trivial
  · cases h
    trivial
  · obtain ⟨found, -, heq⟩ := Option.map_eq_some_iff.mp h
    cases heq
    trivial
  · obtain ⟨found, -, heq⟩ := Option.map_eq_some_iff.mp h
    cases heq
    trivial
  · split at h
    · cases h
      trivial
    · rcases Option.or_eq_some_iff.mp h with hfloat | ⟨-, hinteger⟩
      · exact wellFormed_of_float? hfloat
      · exact wellFormed_of_integer? hinteger

/-! ## Values -/

/-- Whatever is read is well formed. -/
def ReadsWellFormed (inner : ValueReader) : Prop :=
  ∀ text node rest, inner text = some (node, rest) → node.WellFormed

variable {inner : ValueReader}

/-- The items of an array are well-formed, where the values are. -/
theorem wellFormed_of_items? (hinner : ReadsWellFormed inner) {bound : Nat}
    {text rest : List Char} {items : List Node}
    (h : items? inner bound text = some (items, rest)) : ∀ item ∈ items, item.WellFormed := by
  induction bound generalizing text items rest with
  | zero => cases h
  | succ bound ih =>
    rw [items?] at h
    split at h
    · cases h
      exact List.forall_mem_nil _
    · split at h
      · cases h
      · rename_i item afterItem hitem
        have hfirst := hinner _ _ _ hitem
        split at h
        · obtain ⟨found, hfound, heq⟩ := Option.map_eq_some_iff.mp h
          cases heq
          exact List.forall_mem_cons.mpr ⟨hfirst, ih hfound⟩
        · cases h
          exact List.forall_mem_singleton.mpr hfirst
        · cases h

/-- An inline table is well-formed, where the values are. -/
theorem wellFormed_of_pairs? (hinner : ReadsWellFormed inner) {bound : Nat}
    {text rest : List Char} {table grown : Table} (htable : Table.WellFormed table)
    (h : pairs? inner bound text table = some (grown, rest)) : Table.WellFormed grown := by
  induction bound generalizing text table with
  | zero => cases h
  | succ bound ih =>
    rw [pairs?] at h
    split at h
    · cases h
    · rename_i path key node afterPair hpair
      have hnode : node.WellFormed := by
        unfold pair? at hpair
        split at hpair
        · obtain ⟨found, hfound, heq⟩ := Option.map_eq_some_iff.mp hpair
          cases heq
          exact hinner _ _ _ hfound
        · cases hpair
      split at h
      · cases h
      · rename_i more hmore
        have hlonger := htable.insert hnode hmore
        split at h
        · exact ih hlonger h
        · cases h
          exact hlonger
        · cases h

/-- Values are well formed, however deep they are nested. -/
theorem readsWellFormed_nested? (depth : Nat) : ReadsWellFormed (nested? depth) := by
  induction depth with
  | zero =>
    intro text node rest h
    rw [nested?] at h
    · obtain ⟨found, hfound, heq⟩ := Option.map_eq_some_iff.mp h
      cases heq
      exact .scalar (wellFormed_of_scalar? hfound) _
    · simp
    · simp
  | succ depth ih =>
    intro text node rest h
    unfold nested? at h
    split at h
    · rename_i hdepth
      obtain rfl := Nat.succ.inj hdepth
      obtain ⟨found, hfound, heq⟩ := Option.map_eq_some_iff.mp h
      cases heq
      exact .array (wellFormed_of_items? ih hfound) _
    · rename_i hdepth
      obtain rfl := Nat.succ.inj hdepth
      split at h
      · cases h
        exact Table.WellFormed.nil.toNode _ _
      · obtain ⟨found, hfound, heq⟩ := Option.map_eq_some_iff.mp h
        cases heq
        exact (wellFormed_of_pairs? ih .nil hfound).toNode _ _
    · obtain ⟨found, hfound, heq⟩ := Option.map_eq_some_iff.mp h
      cases heq
      exact .scalar (wellFormed_of_scalar? hfound) _

theorem wellFormed_of_value? {text rest : List Char} {node : Node}
    (h : value? text = some (node, rest)) : node.WellFormed :=
  readsWellFormed_nested? _ text node rest h

/-! ## Documents -/

/-- A header, or a pair whose value is well formed. -/
def Statement.WellFormed : Statement → Prop
  | .pair _ _ node => node.WellFormed
  | .header _ _ _ _ => True

/-- A header that is read is a well-formed statement. -/
theorem wellFormed_of_header? {isElement : Bool} {text afterBrackets rest : List Char}
    {statement : Statement}
    (h : header? isElement text afterBrackets = some (statement, rest)) :
    statement.WellFormed := by
  unfold header? at h
  split at h
  · split at h
    · split at h
      · cases h
        trivial
      · cases h
    · cases h
      trivial
  · cases h

theorem wellFormed_of_statement? {text rest : List Char} {statement : Statement}
    (h : statement? text = some (statement, rest)) : statement.WellFormed := by
  unfold statement? at h
  split at h
  · exact wellFormed_of_header? h
  · exact wellFormed_of_header? h
  · split at h
    · obtain ⟨found, hfound, heq⟩ := Option.map_eq_some_iff.mp h
      cases heq
      exact wellFormed_of_value? hfound
    · cases h

/-- The statements of a text are well-formed. -/
theorem wellFormed_of_statementsWithin? {bound : Nat} {text : List Char}
    {statements : List Statement} (h : statementsWithin? bound text = some statements) :
    ∀ statement ∈ statements, statement.WellFormed := by
  induction bound generalizing text statements with
  | zero => cases h
  | succ bound ih =>
    rw [statementsWithin?] at h
    split at h
    · cases h
      exact List.forall_mem_nil _
    · split at h
      · exact ih h
      · split at h
        · cases h
        · rename_i statement rest hstatement
          split at h
          · cases h
          · obtain ⟨others, hothers, rfl⟩ := Option.map_eq_some_iff.mp h
            exact List.forall_mem_cons.mpr ⟨wellFormed_of_statement? hstatement, ih hothers⟩

/-- Pairs whose values are well formed. -/
def PairsWellFormed (pairs : List Pair) : Prop :=
  ∀ pair ∈ pairs, pair.node.WellFormed

/-- Sorting statements into sections keeps the values. -/
theorem wellFormed_sections {statements : List Statement}
    (h : ∀ statement ∈ statements, statement.WellFormed) :
    PairsWellFormed (sections statements).1 ∧
      ∀ body ∈ (sections statements).2, PairsWellFormed body.pairs := by
  induction statements with
  | nil => exact ⟨List.forall_mem_nil _, List.forall_mem_nil _⟩
  | cons statement statements ih =>
    obtain ⟨hstatement, hothers⟩ := List.forall_mem_cons.mp h
    obtain ⟨hpairs, hbodies⟩ := ih hothers
    cases statement with
    | pair path key node => exact ⟨List.forall_mem_cons.mpr ⟨hstatement, hpairs⟩, hbodies⟩
    | header path key isElement span =>
      exact ⟨List.forall_mem_nil _, List.forall_mem_cons.mpr ⟨hpairs, hbodies⟩⟩

/-- Steps that each keep a table well formed do so one after the other. -/
theorem wellFormed_of_foldlM {Item : Type} {step : Table → Item → Option Table}
    {items : List Item}
    (hstep : ∀ item ∈ items, ∀ table grown, Table.WellFormed table →
      step table item = some grown → Table.WellFormed grown)
    {table grown : Table} (htable : Table.WellFormed table)
    (h : items.foldlM step table = some grown) : Table.WellFormed grown := by
  induction items generalizing table with
  | nil =>
    cases h
    exact htable
  | cons item items ih =>
    obtain ⟨hitem, hitems⟩ := List.forall_mem_cons.mp hstep
    rw [List.foldlM_cons] at h
    obtain ⟨next, hnext, hrest⟩ := Option.bind_eq_some_iff.mp h
    exact ih hitems (hitem table next htable hnext) hrest

/-- Adding well-formed rows keeps a table well-formed. -/
theorem wellFormed_of_addPairs {pairs : List Pair} (hpairs : PairsWellFormed pairs)
    {table grown : Table} (htable : Table.WellFormed table)
    (h : addPairs pairs table = some grown) : Table.WellFormed grown :=
  wellFormed_of_foldlM
    (fun pair hpair _ _ hcurrent hnext => hcurrent.insert (hpairs pair hpair) hnext) htable h

/-- A section of well-formed rows gives a well-formed node. -/
theorem wellFormed_of_table {body : Section} (hbody : PairsWellFormed body.pairs)
    {start : Table} (hstart : Table.WellFormed start) {node : Node}
    (h : body.table start = some node) : node.WellFormed := by
  obtain ⟨pairs, hpairs, rfl⟩ := Option.map_eq_some_iff.mp h
  exact (wellFormed_of_addPairs hbody hstart hpairs).toNode _ _

/-- A section is added below a new key, completes a table that was only implied, or is one more
of the tables that share its key. -/
theorem wellFormed_of_place {body : Section} (hbody : PairsWellFormed body.pairs)
    {table grown : Table} (htable : Table.WellFormed table)
    (h : body.place table = some grown) : Table.WellFormed grown := by
  unfold Section.place at h
  split at h
  · rename_i hnew _
    obtain ⟨node, hnode, rfl⟩ := Option.map_eq_some_iff.mp h
    exact htable.append hnew (wellFormed_of_table hbody .nil hnode)
  · rename_i hnew _
    obtain ⟨node, hnode, rfl⟩ := Option.map_eq_some_iff.mp h
    refine htable.append hnew (.tables ?_ _)
    exact List.forall_mem_singleton.mpr (wellFormed_of_table hbody .nil hnode)
  · rename_i hfind _
    obtain ⟨node, hnode, rfl⟩ := Option.map_eq_some_iff.mp h
    have himplied := Table.WellFormed.of_node (htable.of_find? hfind)
    exact (htable.erase _).append (Table.WellFormed.find?_erase table _)
      (wellFormed_of_table hbody himplied hnode)
  · rename_i elements span hfind _
    obtain ⟨node, hnode, rfl⟩ := Option.map_eq_some_iff.mp h
    have helements : ∀ element ∈ elements, element.WellFormed := by
      cases htable.of_find? hfind with
      | tables helements => exact helements
    refine htable.replace (.tables (fun element helement => ?_) _) _
    rcases List.mem_append.mp helement with helement | helement
    · exact helements element helement
    · rw [List.mem_singleton.mp helement]
      exact wellFormed_of_table hbody .nil hnode
  · cases h

/-- Adding a section of well-formed rows keeps a document well-formed. -/
theorem wellFormed_of_addSection {body : Section} (hbody : PairsWellFormed body.pairs)
    {document grown : Table} (hdocument : Table.WellFormed document)
    (h : addSection document body = some grown) : Table.WellFormed grown :=
  hdocument.change (fun _ _ _ hinner hplace => wellFormed_of_place hbody hinner hplace) h

/-- Every document is well formed: it gives each key once, in each of its tables, and its
integers have 64 bits. -/
theorem wellFormed_of_document? {text : List Char} {document : Table}
    (h : document? text = some document) : Table.WellFormed document := by
  unfold document? at h
  split at h
  · cases h
  · rename_i statements hstatements
    obtain ⟨hpairs, hbodies⟩ :=
      wellFormed_sections (wellFormed_of_statementsWithin? hstatements)
    obtain ⟨start, hstart, hsections⟩ := Option.bind_eq_some_iff.mp h
    exact wellFormed_of_foldlM
      (fun body hbody _ _ hcurrent hnext =>
        wellFormed_of_addSection (hbodies body hbody) hcurrent hnext)
      (wellFormed_of_addPairs hpairs .nil hstart) hsections

end Toml

end ResourceHealth
