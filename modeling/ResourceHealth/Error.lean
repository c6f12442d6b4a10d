import ResourceHealth.Files.Path
import ResourceHealth.Files.SystemError
import ResourceHealth.Mismatch
import ResourceHealth.Panic
import ResourceHealth.Toml.Excerpt

/-!
# Errors

What can go wrong when a source is read or settings are read or written, kept as
causes; the wording stands in one place.

Main definitions:

- `ParseCause`, `SettingsError`, `MonitorError`: the causes.
- `MonitorError.message`: what an error says.
- `Fault`: an error or a panic.
-/

namespace ResourceHealth

/-- Why the text of a source could not be understood. -/
inductive ParseCause where
  /-- No line starts with the word for all processors together. -/
  | noProcessorLine
  /-- A word of the processor line is no counter. -/
  | badJiffies (word : List Char)
  /-- The processor line has too few counters. -/
  | fewCounters (count : Nat)
  /-- A word that should be a number of kilobytes is no counter. -/
  | badKilobytes (word : List Char)
  /-- The whole memory is missing. -/
  | noTotalMemory
  /-- The available memory is missing. -/
  | noAvailableMemory
  /-- The path of a file system holds a NUL. -/
  | nulInPath
  /-- A source gives a reason of its own. -/
  | stated (detail : String)
deriving DecidableEq

/-- How a cause is shown. -/
def ParseCause.message : ParseCause → String
  | .noProcessorLine => "aggregate 'cpu' line not found"
  | .badJiffies word => "expected integer jiffies, got '" ++ String.ofList word ++ "'"
  | .fewCounters count => s!"expected at least 4 cpu fields, got {count}"
  | .badKilobytes word => "expected integer kB value, got '" ++ String.ofList word ++ "'"
  | .noTotalMemory => "MemTotal not found"
  | .noAvailableMemory => "MemAvailable not found"
  | .nulInPath => "path contains an interior NUL byte"
  | .stated detail => detail

/-- Why settings could not be read or written. -/
inductive SettingsError where
  /-- Their file could not be read. -/
  | unreadable (path : Path) (refusal : SystemError)
  /-- Their text is no TOML document. -/
  | malformed
  /-- Their document does not fit. -/
  | unsuitable (place : Toml.Excerpt) (mismatch : Mismatch)
  /-- The capacity is too large for a TOML integer. -/
  | capacityTooLarge
  /-- The path is not text. -/
  | pathNotText
  /-- A source gives a reason of its own. -/
  | stated (detail : String)
deriving DecidableEq

/-- How the reading of settings went wrong.  For a text that is no document the message ends
before the parser's own account of where it gave up, which is not told here. -/
def SettingsError.message : SettingsError → String
  | .unreadable path refusal =>
    "cannot read config '" ++ path.shown ++ "': " ++ refusal.message
  | .malformed => "TOML parse error"
  | .unsuitable place mismatch =>
    "TOML parse error: " ++ place.shown ++ mismatch.message NumberStyle.plainPoint ++ "\n"
  | .capacityTooLarge => "TOML serialise error: out-of-range value for u64 type"
  | .pathNotText => "TOML serialise error: path contains invalid UTF-8 characters"
  | .stated detail => detail

/-- What can go wrong for a monitor. -/
inductive MonitorError where
  /-- A source could not be read. -/
  | unreadable (path : Path) (refusal : SystemError)
  /-- A source's text could not be understood. -/
  | unparsable (path : Path) (cause : ParseCause)
  /-- A source is not there. -/
  | unavailable (path : Path)
  /-- Settings could not be read or written. -/
  | settings (cause : SettingsError)
deriving DecidableEq

namespace MonitorError

/-- What an error says. -/
def message : MonitorError → String
  | unreadable path refusal => "failed to read " ++ path.shown ++ ": " ++ refusal.message
  | unparsable path cause =>
    "failed to parse value from " ++ path.shown ++ ": " ++ cause.message
  | unavailable path => "resource source not available: " ++ path.shown
  | settings cause => "configuration error: " ++ cause.message

/-- The refusal of the operating system behind an error. -/
def refusal? : MonitorError → Option SystemError
  | unreadable _ refusal => some refusal
  | _ => none

end MonitorError

/-- How a reading can fail: with an error that is handled, or by a panic. -/
inductive Fault where
  | error (cause : MonitorError)
  | panic (cause : Panic)
deriving DecidableEq

end ResourceHealth
