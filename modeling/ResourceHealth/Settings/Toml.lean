import ResourceHealth.Settings
import ResourceHealth.Toml.Read
import ResourceHealth.Toml.Write

/-!
# Settings in TOML

Main definitions:

- `Settings.ofToml`: settings read from a document.
- `Settings.ofFile`: settings read from a file of the host.
- `Settings.toTomlWith`: settings as a document, given what writes strings.
- `Settings.toToml`: settings as a document, with the rows of quotes counted.
-/

namespace ResourceHealth

namespace Settings

/-- The thresholds as slots. -/
def thresholdSlots : List (Toml.Slot Thresholds) :=
  Thresholds.fields.map fun field => .ofField field Toml.readNumber

/-- Reads thresholds; figures that are not given are the standard ones. -/
def readThresholds : Toml.NodeReader Thresholds :=
  Toml.readRecord Thresholds.recordName thresholdSlots Thresholds.standard

/-- The settings as slots. -/
def tomlSlots : List (Toml.Slot Settings) := [
  ⟨maxHistoryName, fun span node =>
    (Toml.readCounter span node).map fun n settings => { settings with maxHistory := n }⟩,
  ⟨enabledName, fun span node =>
    (Toml.readBoolean span node).map fun b settings => { settings with enabled := b }⟩,
  ⟨diskPathName, fun span node =>
    (Toml.readText .path span node).map fun text settings =>
      { settings with diskPath := Path.ofText text }⟩,
  ⟨thresholdsName, fun span node =>
    (readThresholds span node).map fun t settings => { settings with thresholds := t }⟩]

/-- Reads settings from a document; those that are not given are the standard ones. -/
def ofToml (text : List Char) : Except SettingsError Settings :=
  match Toml.document? text with
  | none => .error .malformed
  | some document =>
    (Toml.readPairs tomlSlots document standard).mapError fun misfit =>
      .unsuitable (.around text misfit.span) misfit.mismatch

/-- Reads settings from a file of the host. -/
def ofFile (host : Host) (path : Path) : Except SettingsError Settings :=
  match host.text path with
  | .error refusal => .error (.unreadable path refusal)
  | .ok text => ofToml text

/-- The first number that is no integer of TOML. -/
def integerLimit : Nat := Nat.pow 2 63

/-- The document that gives settings whose path is written in the given way. -/
def written (settings : Settings) (path : List Char) : List Char :=
  Toml.line maxHistoryName (Nat.toDigits 10 settings.maxHistory) ++
    Toml.line enabledName (if settings.enabled then "true".toList else "false".toList) ++
    Toml.line diskPathName path ++
    '\n' :: '[' :: (thresholdsName.toList ++ ']' :: '\n' ::
      (Field.values Thresholds.fields settings.thresholds).flatMap fun part =>
        Toml.line part.1 (NumberStyle.toml.write part.2))

/-- Settings as a document, with the path written by the given writer of strings.  A capacity
that is no integer of TOML and a path that is no text cannot be written. -/
def toTomlWith (write : Toml.StringWriter) (settings : Settings) : Except Fault (List Char) :=
  if integerLimit ≤ settings.maxHistory then .error (.error (.settings .capacityTooLarge))
  else match settings.diskPath.text? with
    | none => .error (.error (.settings .pathNotText))
    | some path =>
      match write path with
      | .error cause => .error (.panic cause)
      | .ok written => .ok (settings.written written)

/-- Settings as a document, by the writer that counts rows of quotes in eight bits. -/
def toToml (settings : Settings) : Except Fault (List Char) :=
  settings.toTomlWith Toml.writeString

end Settings

end ResourceHealth
