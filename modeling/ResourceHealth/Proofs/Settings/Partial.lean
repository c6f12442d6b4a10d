import Mathlib
import ResourceHealth.Proofs.Binary64.Nearest
import ResourceHealth.Proofs.Settings.Toml
import ResourceHealth.Proofs.Toml.Given

/-!
# Settings that a document gives in part

A document may give some settings and some thresholds, in any order and among other keys.  What
it gives replaces the default, and nothing else does: one threshold leaves the other five and
the settings above as they are.  A value of another kind is told, wherever it stands.

Main definitions:

- `Settings.DescribedBy`: the settings that a document describes.
- `Settings.HasMistypedKey`: a document gives a known key something that is no value of its kind.
- `Settings.Agree`: documents give the same for the known keys.

Main results:

- Theorem `Settings.readPairs_eq_ok_iff`: the settings that are read are the described ones.
- Theorem `Settings.ofToml_partial`: what is read from a document that gives some settings.
-/

namespace ResourceHealth

namespace Settings

open Toml (Node Scalar Table)

/-- Settings that a document with a table of thresholds describes: each of them is given or has
its default, and so is each threshold. -/
structure DescribedBy (document inner : Table) (settings : Settings) : Prop where
  maxHistory : Table.Sets (Node.holding Scalar.counter?) document maxHistoryName
    standard.maxHistory settings.maxHistory
  enabled : Table.Sets (Node.holding Scalar.boolean?) document enabledName
    standard.enabled settings.enabled
  diskPath : Table.Sets (Node.holding Scalar.path?) document diskPathName
    standard.diskPath settings.diskPath
  thresholds : ∀ field ∈ Thresholds.fields, Table.Sets (Node.holding Scalar.number?) inner
    field.name (field.get standard.thresholds) (field.get settings.thresholds)

/-- A document with a table of thresholds gives a known key something that is no value of its
kind. -/
inductive HasMistypedKey (document inner : Table) : Prop
  | maxHistory (h : Table.HasMistyped (Node.holding Scalar.counter?) document maxHistoryName)
  | enabled (h : Table.HasMistyped (Node.holding Scalar.boolean?) document enabledName)
  | diskPath (h : Table.HasMistyped (Node.holding Scalar.path?) document diskPathName)
  | threshold {field : Field Thresholds Binary64} (hfield : field ∈ Thresholds.fields)
      (h : Table.HasMistyped (Node.holding Scalar.number?) inner field.name)

/-- Documents with tables of thresholds that give the same for the known keys. -/
structure Agree (document inner otherDocument otherInner : Table) : Prop where
  settings : ∀ name ∈ [maxHistoryName, enabledName, diskPathName],
    Table.Agree document otherDocument name
  thresholds : ∀ field ∈ Thresholds.fields, Table.Agree inner otherInner field.name

variable {document inner otherDocument otherInner : Table} {settings : Settings}

theorem Agree.symm (h : Agree document inner otherDocument otherInner) :
    Agree otherDocument otherInner document inner where
  settings name hname := (h.settings name hname).symm
  thresholds field hfield := (h.thresholds field hfield).symm

/-- Documents that give the same for the known keys describe the same settings. -/
theorem Agree.describedBy (h : Agree document inner otherDocument otherInner)
    (hsettings : settings.DescribedBy document inner) :
    settings.DescribedBy otherDocument otherInner where
  maxHistory := (h.settings _ (.head _)).sets hsettings.maxHistory
  enabled := (h.settings _ (.tail _ (.head _))).sets hsettings.enabled
  diskPath := (h.settings _ (.tail _ (.tail _ (.head _)))).sets hsettings.diskPath
  thresholds field hfield := (h.thresholds field hfield).sets (hsettings.thresholds field hfield)

/-! ## The slots of settings -/

/-- Each slot leaves the settings of other names as they are. -/
theorem keeps_of_mem_tomlSlots : ∀ slot ∈ tomlSlots,
    (slot.name ≠ maxHistoryName → slot.Keeps (·.maxHistory)) ∧
      (slot.name ≠ enabledName → slot.Keeps (·.enabled)) ∧
      (slot.name ≠ diskPathName → slot.Keeps (·.diskPath)) ∧
      (slot.name ≠ thresholdsName → slot.Keeps (·.thresholds)) := by
  simp only [tomlSlots, List.forall_mem_cons]
  refine ⟨?_, ?_, ?_, ?_, List.forall_mem_nil _⟩ <;> refine ⟨?_, ?_, ?_, ?_⟩ <;> intro hne <;>
    first
    | exact absurd rfl hne
    | exact .of_map (fun _ _ => rfl) fun _ _ => rfl

/-- The first slot stores the retained count. -/
theorem stores_maxHistory (document : Table) :
    (tomlSlots[0]).Stores tomlSlots document (Node.holding Scalar.counter?) (·.maxHistory) :=
  .of_readsAs (List.getElem_mem _) nodup_tomlSlots (fun _ _ => rfl)
    (fun node _ => Toml.readsAs_readCounter node) (fun _ _ => rfl)
    fun slot hslot => (keeps_of_mem_tomlSlots slot hslot).1

theorem stores_enabled (document : Table) :
    (tomlSlots[1]).Stores tomlSlots document (Node.holding Scalar.boolean?) (·.enabled) :=
  .of_readsAs (List.getElem_mem _) nodup_tomlSlots (fun _ _ => rfl)
    (fun node _ => Toml.readsAs_readBoolean node) (fun _ _ => rfl)
    fun slot hslot => (keeps_of_mem_tomlSlots slot hslot).2.1

theorem stores_diskPath (document : Table) :
    (tomlSlots[2]).Stores tomlSlots document (Node.holding Scalar.path?) (·.diskPath) := by
  have hread : ∀ span node, (tomlSlots[2]).read span node =
      ((Toml.readText .path span node).map Path.ofText).map
        fun path (settings : Settings) => { settings with diskPath := path } := by
    intro span node
    change (Toml.readText .path span node).map _ = _
    cases Toml.readText .path span node <;> rfl
  exact .of_readsAs (List.getElem_mem _) nodup_tomlSlots hread
    (fun node _ => Toml.readsAs_readText .path node) (fun _ _ => rfl)
    fun slot hslot => (keeps_of_mem_tomlSlots slot hslot).2.2.1

/-- The thresholds that a table gives in part. -/
def thresholds? (inner : Table) : Option Thresholds :=
  (Toml.readPairs thresholdSlots inner Thresholds.standard).toOption

/-- A table is read as the thresholds it holds, or is refused. -/
theorem readsAs_readThresholds {node : Node} (h : node.table? = some inner) :
    Toml.ReadsAs readThresholds (fun node => node.table?.bind thresholds?) node := by
  intro span
  simp only [h, Option.bind_some, thresholds?]
  cases node with
  | table form extent pairs =>
    cases h
    have hread : readThresholds span (.table form extent inner) =
        Toml.readPairs thresholdSlots inner Thresholds.standard := rfl
    rw [hread]
    cases Toml.readPairs thresholdSlots inner Thresholds.standard with
    | ok thresholds => rfl
    | error misfit => exact ⟨misfit, rfl⟩
  | scalar | array | tables => cases h

/-- Without a table of thresholds all of them are the standard ones. -/
theorem thresholds?_nil : thresholds? [] = some Thresholds.standard :=
  rfl

/-- A table holds thresholds exactly where each of them is the number set for it, or the standard
one. -/
theorem thresholds?_eq_some_iff (hinner : Table.WellFormed inner) {thresholds : Thresholds} :
    thresholds? inner = some thresholds ↔
      ∀ field ∈ Thresholds.fields, Table.Sets (Node.holding Scalar.number?) inner field.name
        (field.get Thresholds.standard) (field.get thresholds) := by
  rw [thresholds?, ← Toml.readPairs_slotsOf_eq_ok_iff Thresholds.fields_makeUp
    Toml.readsAs_readNumber hinner.nodup]
  change _ ↔ Toml.readPairs thresholdSlots inner Thresholds.standard = .ok thresholds
  cases Toml.readPairs thresholdSlots inner Thresholds.standard <;> simp [Except.toOption]

/-- A table holds no thresholds exactly where one of them is set to something other than a number.
-/
theorem thresholds?_eq_none_iff :
    thresholds? inner = none ↔
      ∃ field ∈ Thresholds.fields,
        Table.HasMistyped (Node.holding Scalar.number?) inner field.name := by
  rw [thresholds?, ← Toml.exists_readPairs_slotsOf_eq_error_iff Thresholds.fields_makeUp
    Toml.readsAs_readNumber]
  change _ ↔ ∃ misfit, Toml.readPairs thresholdSlots inner Thresholds.standard = .error misfit
  cases Toml.readPairs thresholdSlots inner Thresholds.standard <;> simp [Except.toOption]

/-! ## Documents -/

section Document

variable (hdocument : Table.WellFormed document)
  (hinner : Table.Sets Node.table? document thresholdsName [] inner)
include hdocument hinner

/-- The table of the thresholds is well-formed, also where it is left out. -/
theorem wellFormed_inner : Table.WellFormed inner := by
  rcases Table.sets_iff.mp hinner with ⟨node, ⟨key, -, hmem⟩, htable⟩ | ⟨-, rfl⟩
  · have hnode := hdocument.nodes (key, node) hmem
    cases node with
    | table form extent pairs =>
      cases htable
      exact .of_node hnode
    | scalar | array | tables => cases htable
  · exact .nil

theorem stores_thresholds :
    (tomlSlots[3]).Stores tomlSlots document (fun node => node.table?.bind thresholds?)
      (·.thresholds) :=
  .of_readsAs (List.getElem_mem _) nodup_tomlSlots (fun _ _ => rfl)
    (fun _ hhas => readsAs_readThresholds (hinner.view_eq hdocument.nodup hhas)) (fun _ _ => rfl)
    fun slot hslot => (keeps_of_mem_tomlSlots slot hslot).2.2.2

/-- The thresholds are set below their name, each on its own. -/
theorem sets_thresholds_iff {thresholds : Thresholds} :
    Table.Sets (fun node => node.table?.bind thresholds?) document thresholdsName
        Thresholds.standard thresholds ↔
      ∀ field ∈ Thresholds.fields, Table.Sets (Node.holding Scalar.number?) inner field.name
        (field.get Thresholds.standard) (field.get thresholds) :=
  (hinner.bind_iff hdocument.nodup thresholds?_nil).trans
    (thresholds?_eq_some_iff (wellFormed_inner hdocument hinner))

/-- The thresholds of a document are mistyped exactly where one of them is. -/
theorem hasMistyped_thresholds_iff :
    Table.HasMistyped (fun node => node.table?.bind thresholds?) document thresholdsName ↔
      ∃ field ∈ Thresholds.fields,
        Table.HasMistyped (Node.holding Scalar.number?) inner field.name :=
  (hinner.hasMistyped_bind_iff hdocument.nodup thresholds?_nil).trans
    thresholds?_eq_none_iff

/-- The settings read from a document are described by it. -/
theorem describedBy_of_readPairs
    (h : Toml.readPairs tomlSlots document standard = .ok settings) :
    settings.DescribedBy document inner where
  maxHistory := (stores_maxHistory document).sets h
  enabled := (stores_enabled document).sets h
  diskPath := (stores_diskPath document).sets h
  thresholds := (sets_thresholds_iff hdocument hinner).mp
    ((stores_thresholds hdocument hinner).sets h)

/-- A document without a mistyped key is read. -/
theorem exists_readPairs_of_not_hasMistypedKey (h : ¬ HasMistypedKey document inner) :
    ∃ settings, Toml.readPairs tomlSlots document standard = .ok settings := by
  have hthresholds : ¬ Table.HasMistyped (fun node => node.table?.bind thresholds?) document
      thresholdsName := by
    rw [hasMistyped_thresholds_iff hdocument hinner]
    rintro ⟨field, hfield, hmistyped⟩
    exact h (.threshold hfield hmistyped)
  refine Toml.exists_readPairs_eq (fun slot hslot node hhas span => ?_) standard
  simp only [tomlSlots, List.mem_cons, List.not_mem_nil, or_false] at hslot
  rcases hslot with rfl | rfl | rfl | rfl
  · exact (stores_maxHistory document).exists_put (fun hgiven => h (.maxHistory hgiven)) hhas span
  · exact (stores_enabled document).exists_put (fun hgiven => h (.enabled hgiven)) hhas span
  · exact (stores_diskPath document).exists_put (fun hgiven => h (.diskPath hgiven)) hhas span
  · exact (stores_thresholds hdocument hinner).exists_put hthresholds hhas span

/-- A document with a mistyped key is refused. -/
theorem exists_error_of_hasMistypedKey (h : HasMistypedKey document inner) :
    ∃ misfit, Toml.readPairs tomlSlots document standard = .error misfit := by
  cases h with
  | maxHistory h => exact (stores_maxHistory document).exists_error h standard
  | enabled h => exact (stores_enabled document).exists_error h standard
  | diskPath h => exact (stores_diskPath document).exists_error h standard
  | threshold hfield h =>
    exact (stores_thresholds hdocument hinner).exists_error
      ((hasMistyped_thresholds_iff hdocument hinner).mpr ⟨_, hfield, h⟩) standard

/-- A document that describes settings has no mistyped key. -/
theorem DescribedBy.not_hasMistypedKey (h : settings.DescribedBy document inner) :
    ¬ HasMistypedKey document inner := by
  rintro (hmistyped | hmistyped | hmistyped | ⟨hfield, hmistyped⟩)
  · exact h.maxHistory.not_hasMistyped hdocument.nodup hmistyped
  · exact h.enabled.not_hasMistyped hdocument.nodup hmistyped
  · exact h.diskPath.not_hasMistyped hdocument.nodup hmistyped
  · exact (h.thresholds _ hfield).not_hasMistyped (wellFormed_inner hdocument hinner).nodup
      hmistyped

/-- A document describes one record of settings only. -/
theorem DescribedBy.unique {other : Settings} (h : settings.DescribedBy document inner)
    (hother : other.DescribedBy document inner) : settings = other := by
  have hmaxHistory := h.maxHistory.unique hdocument.nodup hother.maxHistory
  have henabled := h.enabled.unique hdocument.nodup hother.enabled
  have hdiskPath := h.diskPath.unique hdocument.nodup hother.diskPath
  have hthresholds := Thresholds.fields_makeUp.ext _ _ fun field hfield =>
    (h.thresholds field hfield).unique (wellFormed_inner hdocument hinner).nodup
      (hother.thresholds field hfield)
  cases settings
  cases other
  simp_all

/-- Settings are read from a document exactly where it describes them. -/
theorem readPairs_eq_ok_iff :
    Toml.readPairs tomlSlots document standard = .ok settings ↔
      settings.DescribedBy document inner := by
  refine ⟨describedBy_of_readPairs hdocument hinner, fun h => ?_⟩
  obtain ⟨other, hother⟩ :=
    exists_readPairs_of_not_hasMistypedKey hdocument hinner (h.not_hasMistypedKey hdocument hinner)
  rw [hother, (describedBy_of_readPairs hdocument hinner hother).unique hdocument hinner h]

end Document

/-! ## Reading a document -/

/-- An integer that a threshold is given by becomes the number nearest to it. -/
theorem DescribedBy.isNearest (h : settings.DescribedBy document inner)
    (hwellFormed : Table.WellFormed inner) {field : Field Thresholds Binary64}
    (hfield : field ∈ Thresholds.fields) {value : Int} {span : Toml.Span}
    (hhas : Table.Has inner field.name (.scalar (.integer value) span)) :
    (field.get settings.thresholds).IsNearest value := by
  have hvalue := (h.thresholds field hfield).view_eq hwellFormed.nodup hhas
  rw [← Option.some.inj hvalue]
  obtain ⟨key, -, hmem⟩ := hhas
  exact Binary64.isNearest_ofInt (hwellFormed.nodes _ hmem).natAbs_lt

section Text

variable {text : List Char} (hdocument : Toml.document? text = some document)
include hdocument

/-- The settings of a text are those of its document, a misfit being reported with the text around
it. -/
theorem ofToml_eq : ofToml text =
    (Toml.readPairs tomlSlots document standard).mapError fun misfit =>
      .unsuitable (.around text misfit.span) misfit.mismatch := by
  rw [ofToml, hdocument]

/-- A text gives settings exactly where its document does. -/
theorem ofToml_eq_ok_iff : ofToml text = .ok settings ↔
    Toml.readPairs tomlSlots document standard = .ok settings := by
  rw [ofToml_eq hdocument]
  cases Toml.readPairs tomlSlots document standard <;> simp [Except.mapError]

variable (hinner : Table.Sets Node.table? document thresholdsName [] inner)
include hinner

/-- The settings that are read are those that the document describes. -/
theorem ofToml_eq_ok_iff_describedBy :
    ofToml text = .ok settings ↔ settings.DescribedBy document inner :=
  (ofToml_eq_ok_iff hdocument).trans
    (readPairs_eq_ok_iff (Toml.wellFormed_of_document? hdocument) hinner)

/-- Settings are read unless a known key is given something else. -/
theorem exists_ofToml_eq_ok_iff :
    (∃ settings, ofToml text = .ok settings) ↔ ¬ HasMistypedKey document inner := by
  have hwellFormed := Toml.wellFormed_of_document? hdocument
  constructor
  · rintro ⟨settings, hsettings⟩
    exact ((ofToml_eq_ok_iff_describedBy hdocument hinner).mp hsettings).not_hasMistypedKey
      hwellFormed hinner
  · intro hgiven
    obtain ⟨settings, hsettings⟩ := exists_readPairs_of_not_hasMistypedKey hwellFormed hinner hgiven
    exact ⟨settings, (ofToml_eq_ok_iff hdocument).mpr hsettings⟩

/-- If a known key is given something else, the error names it with its place. -/
theorem exists_ofToml_eq_error_iff :
    (∃ place mismatch, ofToml text = .error (.unsuitable place mismatch)) ↔
      HasMistypedKey document inner := by
  constructor
  · rintro ⟨place, mismatch, herror⟩
    by_contra hgiven
    obtain ⟨settings, hsettings⟩ := (exists_ofToml_eq_ok_iff hdocument hinner).mpr hgiven
    rw [herror] at hsettings
    cases hsettings
  · intro hmistypedKey
    obtain ⟨misfit, hmisfit⟩ :=
      exists_error_of_hasMistypedKey (Toml.wellFormed_of_document? hdocument) hinner hmistypedKey
    refine ⟨.around text misfit.span, misfit.mismatch, ?_⟩
    rw [ofToml_eq hdocument, hmisfit]
    rfl

end Text

/-- What is read from a document that gives some of the settings, with or without a table of
thresholds.  Each of the settings and thresholds that it describes is given or has its default,
and a monitor gets them; only a value of another kind is told.  Documents that give the same
for the known keys are read alike.  The documents are those that `Toml.document?` accepts: TOML
1.0 with integers of 64 bits, numbers that binary64 can hold and a limited depth; that lines with
bare keys and scalars are among them is `Toml.exists_document?_eq`. -/
theorem ofToml_partial {text : List Char} {document inner : Table}
    (hdocument : Toml.document? text = some document)
    (hinner : Table.Sets Node.table? document thresholdsName [] inner) :
    (∀ settings, ofToml text = .ok settings ↔ settings.DescribedBy document inner) ∧
      ((∃ settings, ofToml text = .ok settings) ↔ ¬ HasMistypedKey document inner) ∧
      ((∃ place mismatch, ofToml text = .error (.unsuitable place mismatch)) ↔
        HasMistypedKey document inner) ∧
      (∀ settings, ofToml text = .ok settings →
        (∀ field ∈ Thresholds.fields, ∀ value span,
          Table.Has inner field.name (.scalar (.integer value) span) →
            (field.get settings.thresholds).IsNearest value) ∧
        ∀ (State : Type) (source : State),
          (settings.monitor source).thresholds = settings.thresholds ∧
            (settings.monitor source).enabled = settings.enabled ∧
            (settings.monitor source).history.capacity = max 1 settings.maxHistory) ∧
      ∀ otherText otherDocument otherInner, Toml.document? otherText = some otherDocument →
        Table.Sets Node.table? otherDocument thresholdsName [] otherInner →
        Agree document inner otherDocument otherInner →
          (∀ settings, ofToml otherText = .ok settings ↔ ofToml text = .ok settings) ∧
            ((∃ place mismatch, ofToml otherText = .error (.unsuitable place mismatch)) ↔
              ∃ place mismatch, ofToml text = .error (.unsuitable place mismatch)) := by
  refine ⟨fun settings => ofToml_eq_ok_iff_describedBy hdocument hinner,
    exists_ofToml_eq_ok_iff hdocument hinner, exists_ofToml_eq_error_iff hdocument hinner,
    fun settings hsettings => ⟨?_, fun State source => ⟨rfl, rfl, ?_⟩⟩, ?_⟩
  · intro field hfield value span hhas
    have hdescribed := (ofToml_eq_ok_iff_describedBy hdocument hinner).mp hsettings
    have hwellFormed := wellFormed_inner (Toml.wellFormed_of_document? hdocument) hinner
    exact hdescribed.isNearest hwellFormed hfield hhas
  · rw [capacity_monitor, Nat.max_comm]
  · intro otherText otherDocument otherInner hotherDocument hotherInner hagree
    have hok : ∀ settings, ofToml otherText = .ok settings ↔ ofToml text = .ok settings := by
      intro settings
      rw [ofToml_eq_ok_iff_describedBy hdocument hinner,
        ofToml_eq_ok_iff_describedBy hotherDocument hotherInner]
      exact ⟨hagree.symm.describedBy, hagree.describedBy⟩
    refine ⟨hok, ?_⟩
    -- a document is refused exactly if no settings are read from it
    rw [exists_ofToml_eq_error_iff hdocument hinner,
      exists_ofToml_eq_error_iff hotherDocument hotherInner, ← not_iff_not,
      ← exists_ofToml_eq_ok_iff hdocument hinner,
      ← exists_ofToml_eq_ok_iff hotherDocument hotherInner]
    exact exists_congr hok

/-- A document that gives a capacity and a threshold, among keys of no meaning. -/
def partialText : List Char :=
  "colors = [1, 2]\nmax_history = 7\n[thresholds.spare]\n[thresholds]\ncpu_warning = 60\n".toList

/-- What the document does not give has its default. -/
theorem ofToml_partial_partialText :
    ∃ document inner, Toml.document? partialText = some document ∧
      Table.Sets Node.table? document thresholdsName [] inner ∧
      DescribedBy document inner
        { maxHistory := 7, thresholds := { cpu := { warning := 60, critical := 90 } } } := by
  have hfound : ((Toml.document? partialText).bind fun document =>
      (Table.find? document thresholdsName.toList).bind Node.table?).isSome = true := by
    decide +kernel
  obtain ⟨inner, hinner⟩ := Option.isSome_iff_exists.mp hfound
  obtain ⟨document, hdocument, hnode⟩ := Option.bind_eq_some_iff.mp hinner
  obtain ⟨node, hfind, htable⟩ := Option.bind_eq_some_iff.mp hnode
  have hsets : Table.Sets Node.table? document thresholdsName [] inner :=
    .given (Table.has_of_find? hfind) htable
  exact ⟨document, inner, hdocument, hsets,
    ((ofToml_partial hdocument hsets).1 _).mp (by decide +kernel)⟩

end Settings

end ResourceHealth
