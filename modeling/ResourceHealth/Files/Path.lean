import ResourceHealth.Text.Escaped

/-!
# Paths

The operating system names files by octets, which are usually but not always the
UTF-8 form of a text.

Main definitions:

- `Path`: a name of a file, and `Path.ofText`, `Path.text?`.
- `Path.shown`: the path in messages.
- `Path.quoted`: the path in listings of fields.
-/

namespace ResourceHealth

/-- A name of a file. -/
structure Path where
  octets : List UInt8
deriving DecidableEq

namespace Path

/-- The path that a text names. -/
def ofText (text : List Char) : Path :=
  ⟨Utf8.encode text⟩

/-- The path that a string names. -/
def ofString (text : String) : Path :=
  ofText text.toList

/-- The text of a path, if its octets are one. -/
def text? (path : Path) : Option (List Char) :=
  Utf8.decode? path.octets

/-- The path in messages; what is not text is replaced. -/
def shown (path : Path) : String :=
  String.ofList (Utf8.decodeLossy path.octets)

/-- The path in listings of fields. -/
def quoted (path : Path) : String :=
  quotedOctets path.octets

/-- Whether a path holds a NUL, which the operating system cannot take. -/
def hasNul (path : Path) : Bool :=
  path.octets.contains 0

end Path

end ResourceHealth
