import ResourceHealth.Files.Path
import ResourceHealth.Files.SystemError

/-!
# The host

What the operating system answers at one moment: whether something is at a path,
what a file holds, and how full a file system is.

Main definitions:

- `BlockCounts`: the figures of a file system.
- `Host`: the answers of the operating system.
- `Host.text`: a file read as text.
-/

namespace ResourceHealth

/-- The figures that the operating system gives for a file system. -/
structure BlockCounts where
  /-- All blocks. -/
  blocks : Nat
  /-- Blocks that hold nothing. -/
  free : Nat
  /-- Free blocks that are open to everyone. -/
  available : Nat
  /-- The size of a block in bytes. -/
  blockSize : Nat

/-- The answers of the operating system at one moment. -/
structure Host where
  /-- Whether something is at a path. -/
  present : Path → Bool
  /-- The octets of a file. -/
  read : Path → Except SystemError (List UInt8)
  /-- The figures of the file system that holds a path. -/
  fileSystem : Path → Except SystemError BlockCounts

/-- A file read as text. -/
def Host.text (host : Host) (path : Path) : Except SystemError (List Char) :=
  match host.read path with
  | .error refusal => .error refusal
  | .ok octets =>
    match Utf8.decode? octets with
    | some text => .ok text
    | none => .error .notText

end ResourceHealth
