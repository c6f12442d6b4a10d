import ResourceHealth.Toml.Value

/-!
# TOML documents

A document is read line by line: pairs, and headers that open a table.  The pairs
behind a header belong to its table.

Main definitions:

- `Toml.Statement`: what a line states, and `Toml.statements?`.
- `Toml.Section`: a header with its pairs, and `Toml.sections`.
- `Toml.document?`: the table of a whole document.
-/

namespace ResourceHealth

namespace Toml

/-! ## Statements -/

/-- What a line of a document states. -/
inductive Statement where
  /-- A key with its value; the path leads to the table that holds it. -/
  | pair (path : List Key) (key : Key) (node : Node)
  /-- The start of a table, or of one more of the tables that share a key. -/
  | header (path : List Key) (key : Key) (isElement : Bool) (span : Span)

/-- A header at the front of a text, past its opening brackets, and what follows. -/
def header? (isElement : Bool) (text rest : List Char) : Option (Statement × List Char) :=
  match path? rest with
  | some ((path, key), ']' :: after) =>
    if isElement then
      match after with
      | ']' :: closed => some (.header path key true (.upTo text closed), closed)
      | _ => none
    else some (.header path key false (.upTo text after), after)
  | _ => none

/-- The statement at the front of a text, and what follows. -/
def statement? (text : List Char) : Option (Statement × List Char) :=
  match text with
  | '[' :: '[' :: rest => header? true text rest
  | '[' :: rest => header? false text rest
  | _ =>
    match path? text with
    | some ((path, key), '=' :: rest) =>
      (value? (skipBlanks rest)).map fun found => (.pair path key found.1, found.2)
    | _ => none

/-- The statements of a text, one a line at most, given a bound on the number of lines. -/
def statementsWithin? : Nat → List Char → Option (List Statement)
  | 0, _ => none
  | bound + 1, text =>
    match skipBlanks text with
    | [] => some []
    | start =>
      match closeLine start with
      | some more => statementsWithin? bound more
      | none =>
        match statement? start with
        | none => none
        | some (statement, rest) =>
          match closeLine rest with
          | none => none
          | some more => (statementsWithin? bound more).map (statement :: ·)

/-- The statements of a text. -/
def statements? (text : List Char) : Option (List Statement) :=
  statementsWithin? (text.length + 1) text

/-! ## Sections -/

/-- A pair with the path to the table that holds it. -/
structure Pair where
  path : List Key
  key : Key
  node : Node

/-- A header with the pairs that follow it. -/
structure Section where
  path : List Key
  key : Key
  isElement : Bool
  span : Span
  pairs : List Pair

/-- The pairs before the first header, and the sections. -/
def sections : List Statement → List Pair × List Section
  | [] => ([], [])
  | .pair path key node :: rest =>
    let found := sections rest
    (⟨path, key, node⟩ :: found.1, found.2)
  | .header path key isElement span :: rest =>
    let found := sections rest
    ([], ⟨path, key, isElement, span, found.1⟩ :: found.2)

/-- A table with some pairs added. -/
def addPairs (pairs : List Pair) (table : Table) : Option Table :=
  pairs.foldlM (fun current pair => Table.insert pair.path pair.key pair.node .header current)
    table

/-- The stretch from a header to the end of the last value below it. -/
def Section.extent (body : Section) : Span :=
  match (body.pairs.filterMap fun pair => pair.node.span?).getLast? with
  | some last => ⟨body.span.fromStart, last.behind⟩
  | none => body.span

/-- The table that a section comes to, starting from what is there already. -/
def Section.table (body : Section) (start : Table) : Option Node :=
  (addPairs body.pairs start).map fun pairs => .table .header (some body.extent) pairs

/-- The stretch from the first table that shares a key to the last. -/
def joint (first last : Span) : Span :=
  ⟨first.fromStart, last.behind⟩

/-- The table at the end of a section's path with the section added.  A table that was only
implied is completed and moves to the end; a table that was given before is not given again. -/
def Section.place (body : Section) (table : Table) : Option Table :=
  match Table.find? table body.key.name, body.isElement with
  | none, false => (body.table []).map fun node => table ++ [(body.key, node)]
  | none, true =>
    (body.table []).map fun node => table ++ [(body.key, .tables [node] body.extent)]
  | some (.table .implied _ pairs), false =>
    (body.table pairs).map fun node =>
      Table.erase table body.key.name ++ [(body.key, node)]
  | some (.tables elements span), true =>
    (body.table []).map fun node =>
      Table.replace table body.key.name (.tables (elements ++ [node]) (joint span body.extent))
  | _, _ => none

/-- A document with one more section. -/
def addSection (document : Table) (body : Section) : Option Table :=
  Table.change .implied (fun _ => body.place) body.path .header document

/-! ## Documents -/

/-- The mark that may stand before a document. -/
def byteOrderMark : Char := Char.ofNat 0xfeff

/-- A text without the mark before it. -/
def withoutMark : List Char → List Char
  | c :: rest => if c = byteOrderMark then rest else c :: rest
  | [] => []

/-- The table of a document; nothing if it is not accepted.  Accepted are the documents of
TOML 1.0 with these limits: an integer has 64 bits with its sign, a number with a fraction or an
exponent does not exceed the finite ones of binary64, and arrays, inline tables and dotted keys
are less than `depthLimit` levels deep. -/
def document? (text : List Char) : Option Table :=
  match statements? (withoutMark text) with
  | none => none
  | some found =>
    let parts := sections found
    (addPairs parts.1 []).bind fun start => parts.2.foldlM addSection start

end Toml

end ResourceHealth
