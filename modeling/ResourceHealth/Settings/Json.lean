import ResourceHealth.Json.Records
import ResourceHealth.Settings

/-!
# Settings in JSON

Main definitions:

- `Settings.toJson`: settings as an object.
- `Settings.readJson`: settings read from JSON.
-/

namespace ResourceHealth

namespace Settings

/-- Settings as an object; a path that is no text cannot be written. -/
def toJson (settings : Settings) : Except SettingsError Json :=
  match settings.diskPath.text? with
  | none => .error .pathNotText
  | some path =>
    .ok (.object [
      (maxHistoryName, .counter settings.maxHistory),
      (enabledName, .boolean settings.enabled),
      (diskPathName, .string path),
      (thresholdsName, settings.thresholds.toJson)])

/-- The settings as slots. -/
def jsonSlots : List (Json.Slot Settings) := [
  ⟨maxHistoryName, fun draft =>
    (Json.readCounter draft).map fun n settings => { settings with maxHistory := n }⟩,
  ⟨enabledName, fun draft =>
    (Json.readBoolean draft).map fun b settings => { settings with enabled := b }⟩,
  ⟨diskPathName, fun draft =>
    (Json.readText .path draft).map fun text settings =>
      { settings with diskPath := Path.ofText text }⟩,
  ⟨thresholdsName, fun draft =>
    (Thresholds.readJson draft).map fun t settings => { settings with thresholds := t }⟩]

/-- Reads settings; those that are not given are the standard ones. -/
def readJson : Json.Reader Settings :=
  Json.readRecord recordName jsonSlots false standard

end Settings

end ResourceHealth
