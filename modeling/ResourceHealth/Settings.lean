import ResourceHealth.Monitor
import ResourceHealth.Source.Host

/-!
# Settings

What a user may set of a monitor.

Main definitions:

- `Settings`: the settings, with their defaults.
- `Settings.monitor`: the monitor that has them.

Main results:

- Theorem `Settings.capacity_monitor`: a history holds at least one sample whatever is set.
-/

namespace ResourceHealth

/-- The settings of a monitor. -/
structure Settings where
  maxHistory : Nat := History.standardCapacity
  enabled : Bool := true
  diskPath : Path := HostMeter.standardDiskPath
  thresholds : Thresholds := Thresholds.standard
deriving DecidableEq

namespace Settings

/-- The defaults. -/
def standard : Settings := {}

/-- The name of the record. -/
def recordName : String := "MonitorConfig"

/-- The names of the settings, in the order in which they are written. -/
def maxHistoryName : String := "max_history"

/-- The name of the switch. -/
def enabledName : String := "monitoring_enabled"

/-- The name of the path. -/
def diskPathName : String := "disk_path"

/-- The name of the thresholds. -/
def thresholdsName : String := "thresholds"

/-- A monitor with these settings over a source. -/
def monitor {State : Type} (settings : Settings) (source : State) : Monitor State :=
  Monitor.start settings.thresholds settings.maxHistory settings.enabled source

/-- The host as these settings want it read. -/
def hostMeter (settings : Settings) : HostMeter :=
  HostMeter.start settings.diskPath

/-- A history holds at least one sample whatever is set. -/
theorem capacity_monitor {State : Type} (settings : Settings) (source : State) :
    (settings.monitor source).history.capacity = max settings.maxHistory 1 :=
  rfl

end Settings

end ResourceHealth
