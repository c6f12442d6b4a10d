import ResourceHealth.Binary64.Arithmetic
import ResourceHealth.Counter
import ResourceHealth.Error
import ResourceHealth.Host

/-!
# Volumes

How full a file system is.  The share in use leaves out the blocks that are kept
back for the administrator, so a volume is full when nothing is left for others.

Main definitions:

- `Volume`: the figures of a file system in bytes.
- `Volume.ofBlocks`: from counts of blocks.
- `Volume.percent`: the share in use.
- `Volume.read`: on a host.

Main results:

- Theorem `Volume.used_le_total`: no more is used than there is.
-/

namespace ResourceHealth

/-- The figures of a file system, in bytes. -/
structure Volume where
  total : Nat
  used : Nat
  available : Nat
deriving DecidableEq

namespace Volume

/-- The figures that counts of blocks amount to; products that are too large stay at the
greatest counter. -/
def ofBlocks (counts : BlockCounts) : Volume where
  total := Counter.multiplyCapped counts.blocks counts.blockSize
  used := Counter.multiplyCapped (counts.blocks - counts.free) counts.blockSize
  available := Counter.multiplyCapped counts.available counts.blockSize

/-- No more is used than there is. -/
theorem used_le_total (counts : BlockCounts) :
    (ofBlocks counts).used ≤ (ofBlocks counts).total := by
  have h : (counts.blocks - counts.free) * counts.blockSize ≤ counts.blocks * counts.blockSize :=
    Nat.mul_le_mul_right _ (Nat.sub_le _ _)
  simp only [ofBlocks, Counter.multiplyCapped]
  omega

/-- The share in use of what is used or available, in percent. -/
def percent (volume : Volume) : Binary64 :=
  let whole := Counter.addCapped volume.used volume.available
  if whole = 0 then 0
  else Binary64.clamp 0 100 (Binary64.ofNat volume.used / Binary64.ofNat whole * 100)

/-- Reads the figures of the file system that holds a path. -/
def read (path : Path) (host : Host) : Except MonitorError Volume :=
  if path.hasNul then .error (.unparsable path .nulInPath)
  else match host.fileSystem path with
    | .error refusal => .error (.unreadable path refusal)
    | .ok counts => .ok (ofBlocks counts)

end Volume

end ResourceHealth
