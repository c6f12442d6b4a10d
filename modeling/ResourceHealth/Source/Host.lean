import ResourceHealth.Source
import ResourceHealth.Source.Processor
import ResourceHealth.Source.Volume

/-!
# The host as a source

Main definitions:

- `HostMeter`: the processor meter and the path whose file system is watched.
- `Source.host`: the readings of the host itself.
-/

namespace ResourceHealth

/-- What is kept from one reading of the host to the next. -/
structure HostMeter where
  processor : ProcessorMeter
  diskPath : Path
deriving DecidableEq

namespace HostMeter

/-- The path whose file system is watched when none is asked for. -/
def standardDiskPath : Path := Path.ofString "/"

/-- A meter that has not been read. -/
def start (diskPath : Path) : HostMeter :=
  ⟨{ path := ProcessorMeter.standardPath }, diskPath⟩

end HostMeter

namespace Source

/-- The readings of the host itself. -/
def host : Source HostMeter Host where
  cpu world meter :=
    let reading := meter.processor.read world
    (reading.1, { meter with processor := reading.2 })
  memory world meter := ((Memory.read Memory.standardPath world).map Memory.reading, meter)
  disk world meter :=
    (((Volume.read meter.diskPath world).map Volume.percent).mapError .error, meter)

end Source

end ResourceHealth
