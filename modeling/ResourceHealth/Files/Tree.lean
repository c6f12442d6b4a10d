import ResourceHealth.Host

/-!
# Trees of files

A tree of directories and files answers as the operating system does: names are
followed one by one from the root or from the working directory, and each kind of
wrong path has its own refusal.

Main definitions:

- `Entry`: a file or a directory with what it holds.
- `Tree`: a root with a working directory.
- `Tree.find`: what is at a path.
- `Tree.host`: the tree as a host.
-/

namespace ResourceHealth

/-- What can be at a path. -/
inductive Entry where
  /-- A file with its octets. -/
  | file (octets : List UInt8)
  /-- A directory with its names. -/
  | directory (entries : List (List UInt8 × Entry))

namespace Entry

/-- A directory with names given as strings. -/
def folder (entries : List (String × Entry)) : Entry :=
  .directory (entries.map fun entry => ((Path.ofString entry.1).octets, entry.2))

end Entry

/-- A tree of files with the directory from which relative paths start: the directories from
the working directory up to the root. -/
structure Tree where
  root : Entry
  workingDirectory : List Entry

namespace Tree

/-- A path has fewer octets than this. -/
def pathLimit : Nat := 4096

/-- A name has at most this many octets. -/
def nameLimit : Nat := 255

/-- The octet between two names. -/
def slash : UInt8 := 0x2f

/-- The names of a path, cut at slashes; empty ones stand for doubled slashes. -/
def names : List UInt8 → List (List UInt8)
  | [] => [[]]
  | octet :: rest =>
    if octet = slash then [] :: names rest
    else match names rest with
      | first :: others => (octet :: first) :: others
      | [] => [[octet]]

/-- Follows names from a place, given as the entries from there up to the root.  Each name
needs a directory to be looked up in, also the empty name after a last slash. -/
def follow (root : Entry) : List (List UInt8) → List Entry → Except SystemError Entry
  | [], above => .ok (above.headD root)
  | name :: rest, above =>
    match above.headD root with
    | .file _ => .error .notDirectory
    | .directory entries =>
      if name = [] ∨ name = [0x2e] then follow root rest above
      else if name = [0x2e, 0x2e] then follow root rest (above.drop 1)
      else if nameLimit < name.length then .error .nameTooLong
      else match entries.lookup name with
        | some found => follow root rest (found :: above)
        | none => .error .noSuchFile

/-- What is at a path. -/
def find (tree : Tree) (path : Path) : Except SystemError Entry :=
  match path.octets with
  | [] => .error .noSuchFile
  | first :: _ =>
    if path.hasNul then .error .nulInName
    else if pathLimit ≤ path.octets.length then .error .nameTooLong
    else follow tree.root (names path.octets) (if first = slash then [] else tree.workingDirectory)

/-- The tree as a host whose one file system has the given figures. -/
def host (tree : Tree) (counts : BlockCounts) : Host where
  present path := (tree.find path).toBool
  read path := do
    match ← tree.find path with
    | .file octets => .ok octets
    | .directory _ => .error .isDirectory
  fileSystem path := do
    let _ ← tree.find path
    .ok counts

end Tree

end ResourceHealth
