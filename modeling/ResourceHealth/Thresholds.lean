import ResourceHealth.Binary64.Text
import ResourceHealth.Field
import ResourceHealth.Level

/-!
# Thresholds

The cut-offs of the three resources.

Main definitions:

- `Thresholds`: the cut-offs, with their defaults.
- `Thresholds.fields`: the six figures by name.
-/

namespace ResourceHealth

/-- What is watched. -/
inductive Resource where
  | cpu
  | memory
  | disk
deriving DecidableEq

/-- The cut-offs of the three resources, in percent. -/
structure Thresholds where
  cpu : Cutoffs := ⟨70, 90⟩
  memory : Cutoffs := ⟨75, 90⟩
  disk : Cutoffs := ⟨80, 95⟩
deriving DecidableEq

namespace Thresholds

/-- The defaults. -/
def standard : Thresholds := {}

/-- The thresholds with other cut-offs for one resource. -/
def withCutoffs (thresholds : Thresholds) (resource : Resource) (cutoffs : Cutoffs) :
    Thresholds :=
  match resource with
  | .cpu => { thresholds with cpu := cutoffs }
  | .memory => { thresholds with memory := cutoffs }
  | .disk => { thresholds with disk := cutoffs }

/-- The name of the record. -/
def recordName : String := "ResourceThresholds"

/-- The six figures by name, in the order in which they are written. -/
def fields : List (Field Thresholds Binary64) := [
  ⟨"cpu_warning", (·.cpu.warning), fun x t => { t with cpu.warning := x }⟩,
  ⟨"cpu_critical", (·.cpu.critical), fun x t => { t with cpu.critical := x }⟩,
  ⟨"memory_warning", (·.memory.warning), fun x t => { t with memory.warning := x }⟩,
  ⟨"memory_critical", (·.memory.critical), fun x t => { t with memory.critical := x }⟩,
  ⟨"disk_warning", (·.disk.warning), fun x t => { t with disk.warning := x }⟩,
  ⟨"disk_critical", (·.disk.critical), fun x t => { t with disk.critical := x }⟩]

/-- The thresholds as a listing of fields. -/
def listed (thresholds : Thresholds) : String :=
  listing recordName
    ((Field.values fields thresholds).map fun part => (part.1, part.2.labelledText)) []

end Thresholds

end ResourceHealth
