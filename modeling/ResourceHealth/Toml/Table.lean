import ResourceHealth.Toml.Excerpt
import ResourceHealth.Toml.Scalar

/-!
# TOML tables

A document is a table of tables and values, in the order in which they were given.
A table may be written down in pieces, and rules say which pieces fit together: a
key is given once, and a table that was given as a whole is not added to.

Main definitions:

- `Toml.Node`: a value or a table, with the stretch of the document that gives it.
- `Toml.Table`: nodes by key.
- `Toml.Table.change`: a table with a change below a path.
- `Toml.Table.insert`: a table with one more pair.
-/

namespace ResourceHealth

namespace Toml

/-- A key with the stretch of the document that gives it. -/
structure Key where
  name : List Char
  span : Span
deriving DecidableEq

/-- How a table came about. -/
inductive Form where
  /-- By a header of its own, or as the whole document. -/
  | header
  /-- As the way to a table with a header. -/
  | implied
  /-- As the way to a pair with a dotted key. -/
  | dotted
  /-- As a value. -/
  | inline
deriving DecidableEq

/-- What a key stands for. -/
inductive Node where
  | scalar (value : Scalar) (span : Span)
  | array (items : List Node) (span : Span)
  /-- A table; one that is only implied has no stretch of its own. -/
  | table (form : Form) (span : Option Span) (pairs : List (Key × Node))
  /-- Tables that share a key, each with a header, oldest first. -/
  | tables (elements : List Node) (span : Span)

/-- The stretch of the document that gives a node. -/
def Node.span? : Node → Option Span
  | .scalar _ span => some span
  | .array _ span => some span
  | .table _ span _ => span
  | .tables _ span => some span

/-- Nodes by key, in the order given. -/
abbrev Table := List (Key × Node)

namespace Table

/-- The node of a key. -/
def find? (table : Table) (name : List Char) : Option Node :=
  (List.find? (fun pair => pair.1.name == name) table).map (·.2)

/-- The table with another node for a key that it has. -/
def replace (table : Table) (name : List Char) (node : Node) : Table :=
  table.map fun pair => if pair.1.name = name then (pair.1, node) else pair

/-- The table without a key. -/
def erase (table : Table) (name : List Char) : Table :=
  table.filter fun pair => pair.1.name ≠ name

/-- Whether a path may lead through a table: a header's leads through all that are no values,
and a dotted key's through those that were not given as a whole. -/
def isOpen (way form : Form) : Bool :=
  match form with
  | .inline => false
  | .header => way ≠ .dotted
  | _ => true

/-- The table with a change at the end of a path.  Keys that are missing on the way are added
as tables of the form `way`; of tables that share a key the newest is meant. -/
def change (way : Form) (f : Form → Table → Option Table) : List Key → Form → Table → Option Table
  | [], form, table => f form table
  | key :: path, _, table =>
    match find? table key.name with
    | none =>
      (change way f path way []).map fun inner => table ++ [(key, .table way none inner)]
    | some (.table form span pairs) =>
      if isOpen way form then
        (change way f path form pairs).map fun inner =>
          replace table key.name (.table form span inner)
      else none
    | some (.tables elements span) =>
      match elements.getLast? with
      | some (.table form elementSpan pairs) =>
        (change way f path form pairs).map fun inner =>
          replace table key.name
            (.tables (elements.dropLast ++ [.table form elementSpan inner]) span)
      | _ => none
    | some _ => none

/-- The table with one more pair; the path leads to the table that gets it.  A table that a
dotted key leads to has to be one that only dotted keys made. -/
def insert (path : List Key) (key : Key) (node : Node) (form : Form) (table : Table) :
    Option Table :=
  change .dotted (fun form inner =>
    if decide (form = .dotted) = path.isEmpty ∨ (find? inner key.name).isSome then none
    else some (inner ++ [(key, node)])) path form table

end Table

end Toml

end ResourceHealth
