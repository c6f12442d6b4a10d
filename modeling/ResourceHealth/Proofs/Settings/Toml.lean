import Mathlib
import ResourceHealth.Proofs.Text.Utf8
import ResourceHealth.Proofs.Toml.Read
import ResourceHealth.Settings.Toml

/-!
# Settings written in TOML read back

Settings are read back from the document that gives them, whatever the path is made of,
in whatever form it is written, and whatever numbers the thresholds are.  A capacity that is
no integer of TOML and a path that is no text are refused.  A writer that counts the quotes
of the path in eight bits does the same unless a row of them is too long to be counted.

Main definitions:

- `Settings.FitsToml`: settings that TOML can hold, with the text that names their path.

Main results:

- Theorem `Settings.ofToml_written`: settings are read back from their document.
- Theorem `Settings.toTomlWith_round_trip`: with a writer that can write every string, settings
  are read back if TOML can hold them and are refused if not.
- Theorem `Settings.toToml_round_trip`: which settings end in a panic when rows of quotes are
  counted in eight bits.
-/

namespace ResourceHealth

namespace Settings

/-! ## The document of settings -/

/-- Settings that TOML can hold: the capacity is one of its integers, and the path is the one
that the text names. -/
structure FitsToml (settings : Settings) (path : List Char) : Prop where
  maxHistory_lt : settings.maxHistory < integerLimit
  names_diskPath : Path.ofText path = settings.diskPath

/-- The names of the thresholds need no quotes as keys. -/
theorem isBareName_of_mem_fields :
    ∀ field ∈ Thresholds.fields, Toml.IsBareName field.name.toList := by
  intro field hfield
  have hall : (Thresholds.fields.all fun field =>
      !field.name.toList.isEmpty && field.name.toList.all Toml.isBareKey) = true := rfl
  exact Toml.isBareName_of_all (List.all_eq_true.mp hall field hfield)

variable {settings : Settings} {path written : List Char}

/-- The lines above the thresholds. -/
def entries (h : FitsToml settings path) (hwritten : Toml.IsStringLiteral written path) :
    List Toml.Entry := [
  .counter maxHistoryName (Toml.isBareName_of_all rfl) settings.maxHistory h.maxHistory_lt,
  .boolean enabledName (Toml.isBareName_of_all rfl) settings.enabled,
  .string diskPathName (Toml.isBareName_of_all rfl) hwritten]

/-- The lines of the thresholds. -/
def thresholdEntries (thresholds : Thresholds) : List Toml.Entry :=
  Toml.Entry.numbers Thresholds.fields isBareName_of_mem_fields thresholds

/-- No two lines, and no line and the header of the thresholds, share a key. -/
theorem nodup_keys (h : FitsToml settings path) (hwritten : Toml.IsStringLiteral written path) :
    ((entries h hwritten).map (·.key.toList) ++ [thresholdsName.toList]).Nodup := by
  have hnames : [maxHistoryName, enabledName, diskPathName, thresholdsName].Nodup := by decide
  exact hnames.map fun _ _ => String.toList_inj.mp

theorem nodup_thresholdKeys (thresholds : Thresholds) :
    ((thresholdEntries thresholds).map (·.key.toList)).Nodup := by
  have hkeys : ((thresholdEntries thresholds).map (·.key)).Nodup := by
    rw [thresholdEntries, Toml.Entry.keys_numbers]
    exact Thresholds.fields_makeUp.nodup
  have htexts := hkeys.map fun (_ _ : String) => String.toList_inj.mp
  rwa [List.map_map] at htexts

/-- The document is its lines, a header, and the lines of the thresholds. -/
theorem written_eq (h : FitsToml settings path) (hwritten : Toml.IsStringLiteral written path) :
    settings.written written =
      (entries h hwritten).flatMap Toml.Entry.line ++ '\n' :: '[' :: (thresholdsName.toList ++
        ']' :: '\n' :: (thresholdEntries settings.thresholds).flatMap Toml.Entry.line) := by
  rw [thresholdEntries, Toml.Entry.lines_numbers]
  simp [Settings.written, entries, Toml.Entry.line, Toml.Entry.counter, Toml.Entry.boolean,
    Toml.Entry.string]

/-! ## The document is read -/

/-- The table of thresholds is read as they are. -/
theorem readThresholds_of_isRow {thresholds : Thresholds} {rows : Toml.Table}
    (h : List.Forall₂ Toml.Entry.IsRow (thresholdEntries thresholds) rows) (span : Toml.Span)
    (form : Toml.Form) (extent : Option Toml.Span) :
    readThresholds span (.table form extent rows) = .ok thresholds :=
  Toml.readPairs_numbers Thresholds.fields_makeUp h _

/-- The keys of the settings differ from each other. -/
theorem nodup_tomlSlots : (tomlSlots.map (·.name)).Nodup := by
  decide

/-- The rows of a document of settings are read as them, whatever the settings were before. -/
theorem readPairs_of_isRow (h : FitsToml settings path)
    (hwritten : Toml.IsStringLiteral written path) {rows innerRows : Toml.Table}
    (hrows : List.Forall₂ Toml.Entry.IsRow (entries h hwritten) rows)
    (hinner : List.Forall₂ Toml.Entry.IsRow (thresholdEntries settings.thresholds) innerRows)
    (keySpan : Toml.Span) (form : Toml.Form) (extent : Option Toml.Span) (start : Settings) :
    Toml.readPairs tomlSlots
      (rows ++ [(⟨thresholdsName.toList, keySpan⟩, .table form extent innerRows)]) start =
        .ok settings := by
  -- the rows are those of the three lines, in their order
  obtain _ | @⟨_, ⟨capacityKey, _⟩, _, _, ⟨hcapacityName, _, rfl⟩, hrows⟩ := hrows
  obtain _ | @⟨_, ⟨enabledKey, _⟩, _, _, ⟨henabledName, _, rfl⟩, hrows⟩ := hrows
  obtain _ | @⟨_, ⟨pathKey, _⟩, _, _, ⟨hpathName, _, rfl⟩, hrows⟩ := hrows
  obtain _ | _ := hrows
  have hput : ∀ span, (readThresholds span (.table form extent innerRows)).map
      (fun t (other : Settings) => { other with thresholds := t }) =
        .ok fun other => { other with thresholds := settings.thresholds } := by
    intro span
    rw [readThresholds_of_isRow hinner]
    rfl
  simp only [List.cons_append, List.nil_append]
  rw [Toml.readPairs_of_mem nodup_tomlSlots (.head _) hcapacityName fun _ => rfl,
    Toml.readPairs_of_mem nodup_tomlSlots (.tail _ (.head _)) henabledName fun _ => rfl,
    Toml.readPairs_of_mem nodup_tomlSlots (.tail _ (.tail _ (.head _))) hpathName fun _ => rfl,
    Toml.readPairs_of_mem nodup_tomlSlots (.tail _ (.tail _ (.tail _ (.head _)))) rfl hput,
    Toml.readPairs]
  change Except.ok (⟨settings.maxHistory, settings.enabled, Path.ofText path,
    settings.thresholds⟩ : Settings) = .ok settings
  rw [h.names_diskPath]

/-- Settings are read back from their document, whatever form their path is written in. -/
theorem ofToml_written (h : FitsToml settings path)
    (hwritten : Toml.IsStringLiteral written path) :
    ofToml (settings.written written) = .ok settings := by
  have hne : entries h hwritten ≠ [] := List.cons_ne_nil _ _
  have hname : Toml.IsBareName thresholdsName.toList := Toml.isBareName_of_all rfl
  obtain ⟨rows, innerRows, keySpan, span, hdocument, hrows, hinner⟩ :=
    Toml.exists_document?_eq hne hname (nodup_keys h hwritten)
      (nodup_thresholdKeys settings.thresholds)
  rw [ofToml, written_eq h hwritten, hdocument]
  simp only [readPairs_of_isRow h hwritten hrows hinner]
  rfl

/-! ## Writing -/

/-- Settings that fit TOML have a path that is text. -/
theorem FitsToml.text?_diskPath (h : FitsToml settings path) :
    settings.diskPath.text? = some path :=
  Path.text?_eq_some_iff.mpr h.names_diskPath

/-- No two texts name the path. -/
theorem FitsToml.path_eq (h : FitsToml settings path) {other : List Char}
    (hother : FitsToml settings other) : other = path := by
  have htext := hother.text?_diskPath
  rw [h.text?_diskPath] at htext
  exact (Option.some.inj htext).symm

variable {write : Toml.StringWriter}

/-- If TOML can hold settings, writing them comes to what writing their path comes to. -/
theorem toTomlWith_of_fitsToml (h : FitsToml settings path) :
    settings.toTomlWith write = ((write path).mapError Fault.panic).map settings.written := by
  simp only [toTomlWith, if_neg (Nat.not_le.mpr h.maxHistory_lt), h.text?_diskPath]
  cases write path <;> rfl

/-- With a writer that can write their path, settings that TOML can hold are written and read
back. -/
theorem exists_toTomlWith_eq (h : FitsToml settings path) (hwrite : write path = .ok written)
    (hwritten : Toml.IsStringLiteral written path) :
    ∃ document, settings.toTomlWith write = .ok document ∧ ofToml document = .ok settings := by
  refine ⟨settings.written written, ?_, ofToml_written h hwritten⟩
  rw [toTomlWith_of_fitsToml h, hwrite]
  rfl

/-- What TOML cannot hold is refused, whatever writes the strings. -/
theorem toTomlWith_of_not_fitsToml (h : ¬ ∃ path, FitsToml settings path) :
    ∃ refusal, settings.toTomlWith write = .error (.error (.settings refusal)) := by
  by_cases hlimit : integerLimit ≤ settings.maxHistory
  · exact ⟨.capacityTooLarge, if_pos hlimit⟩
  · cases hpath : settings.diskPath.text? with
    | none =>
      refine ⟨.pathNotText, ?_⟩
      rw [toTomlWith, if_neg hlimit, hpath]
    | some path =>
      exact absurd ⟨path, Nat.not_le.mp hlimit, Path.text?_eq_some_iff.mp hpath⟩ h

/-- With a writer that can write every string, settings are written and read back exactly if
TOML can hold them: their capacity is one of its integers and their path is a text.  All others,
and only these, are refused. -/
theorem toTomlWith_round_trip (hwrite : write.Faithful) (settings : Settings) :
    ((∃ document, settings.toTomlWith write = .ok document ∧
        ofToml document = .ok settings) ↔ ∃ path, FitsToml settings path) ∧
    ((∃ refusal, settings.toTomlWith write = .error (.error (.settings refusal))) ↔
      ¬ ∃ path, FitsToml settings path) := by
  by_cases hfits : ∃ path, FitsToml settings path
  · obtain ⟨path, hpath⟩ := hfits
    obtain ⟨written, hwriting, hwritten⟩ := hwrite path
    obtain ⟨document, hdocument, hback⟩ := exists_toTomlWith_eq hpath hwriting hwritten
    refine ⟨iff_of_true ⟨document, hdocument, hback⟩ ⟨path, hpath⟩,
      iff_of_false ?_ (not_not_intro ⟨path, hpath⟩)⟩
    rintro ⟨refusal, hrefusal⟩
    rw [hdocument] at hrefusal
    cases hrefusal
  · obtain ⟨refusal, hrefusal⟩ := toTomlWith_of_not_fitsToml hfits
    refine ⟨iff_of_false ?_ hfits, iff_of_true ⟨refusal, hrefusal⟩ hfits⟩
    rintro ⟨document, hdocument, -⟩
    rw [hrefusal] at hdocument
    cases hdocument

/-- A path of quotes, backslashes and line ends is written and read back, and so are thresholds
that are no numbers or infinite. -/
theorem toTomlWith_quotes_and_lines :
    let path := ['\'', '\'', '\'', '"', '"', '"', '\\', '\n', '\r', '\x00', 'ü']
    let settings : Settings :=
      { maxHistory := 2 ^ 63 - 1
        diskPath := Path.ofText path
        thresholds := { Thresholds.standard with cpu := ⟨.nan, .infinity⟩ } }
    Toml.StringWriter.Faithful Toml.writePlain ∧
      ∃ document, settings.toTomlWith Toml.writePlain = .ok document ∧
        ofToml document = .ok settings := by
  intro path settings
  have hfits : FitsToml settings path := ⟨by decide, rfl⟩
  exact ⟨Toml.faithful_writePlain,
    (toTomlWith_round_trip Toml.faithful_writePlain settings).1.mpr ⟨path, hfits⟩⟩

/-! ## Rows of quotes that are counted -/

/-- If no row is too long, counting rows of quotes makes no difference. -/
theorem exists_toToml_eq (h : FitsToml settings path) (hrow : ¬ Toml.HasLongRow path) :
    ∃ document, settings.toToml = .ok document ∧ ofToml document = .ok settings := by
  refine exists_toTomlWith_eq h ?_ (Toml.scalar?_string path)
  rw [Toml.writeString_of_not_hasLongRow hrow, Toml.writePlain]

/-- A row of quotes that is too long to be counted is a panic. -/
theorem toToml_of_hasLongRow (h : FitsToml settings path) (hrow : Toml.HasLongRow path) :
    settings.toToml = .error (.panic .addOverflow) := by
  rw [toToml, toTomlWith_of_fitsToml h, Toml.writeString_of_hasLongRow hrow]
  rfl

/-- When rows of quotes are counted in eight bits, settings are written and read back if TOML
can hold them and no row of quotes in their path is too long.  With a longer row writing ends in
a panic, and what TOML cannot hold is refused. -/
theorem toToml_round_trip (settings : Settings) :
    ((∃ document, settings.toToml = .ok document ∧ ofToml document = .ok settings) ↔
      ∃ path, FitsToml settings path ∧ ¬ Toml.HasLongRow path) ∧
    (settings.toToml = .error (.panic .addOverflow) ↔
      ∃ path, FitsToml settings path ∧ Toml.HasLongRow path) ∧
    ((∃ refusal, settings.toToml = .error (.error (.settings refusal))) ↔
      ¬ ∃ path, FitsToml settings path) := by
  by_cases hfits : ∃ path, FitsToml settings path
  · obtain ⟨path, hfits⟩ := hfits
    have hpath : ∀ other, FitsToml settings other ↔ other = path := by
      intro other
      constructor
      · intro hother
        exact hfits.path_eq hother
      · rintro rfl
        exact hfits
    by_cases hrow : Toml.HasLongRow path
    · have houtcome := toToml_of_hasLongRow hfits hrow
      simp [houtcome, hpath, hrow]
    · obtain ⟨document, houtcome, hback⟩ := exists_toToml_eq hfits hrow
      simp [houtcome, hback, hpath, hrow]
  · obtain ⟨refusal, houtcome⟩ :
        ∃ refusal, settings.toToml = .error (.error (.settings refusal)) :=
      toTomlWith_of_not_fitsToml hfits
    simp only [not_exists] at hfits
    simp [houtcome, hfits]

end Settings

end ResourceHealth
