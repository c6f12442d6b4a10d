import ResourceHealth.Toml.Table

/-!
# TOML values and keys

Main definitions:

- `Toml.path?`: a key, dotted or not, at the front of a text.
- `Toml.value?`: a value at the front of a text.

Arrays and inline tables hold values in turn.  How deep they may be nested is
limited, so the depth that is left bounds the recursion.
-/

namespace ResourceHealth

namespace Toml

/-- The stretch from the front of a text up to what follows. -/
def Span.upTo (text rest : List Char) : Span :=
  ⟨text.length, rest.length⟩

/-! ## Keys -/

/-- The name at the front of a text, quoted or bare, and what follows. -/
def name? : List Char → Option (List Char × List Char)
  | '"' :: rest => basicBody rest
  | '\'' :: rest => literalBody rest
  | text =>
    let name := text.takeWhile isBareKey
    if name = [] then none else some (name, text.dropWhile isBareKey)

/-- One key with the blanks around it, and what follows. -/
def key? (text : List Char) : Option (Key × List Char) :=
  let start := skipBlanks text
  (name? start).map fun found =>
    (⟨found.1, .upTo start found.2⟩, skipBlanks found.2)

/-- At most so many keys with dots between them, and what follows. -/
def keys? : Nat → List Char → Option (List Key × List Char)
  | 0, _ => none
  | most + 1, text =>
    match key? text with
    | none => none
    | some (key, '.' :: rest) =>
      (keys? most rest).map fun found => (key :: found.1, found.2)
    | some (key, rest) => some ([key], rest)

/-- What is nested has fewer levels than this, and a dotted key has fewer parts. -/
def depthLimit : Nat := 80

/-- A dotted key: the path to the table and the key in it; and what follows. -/
def path? (text : List Char) : Option ((List Key × Key) × List Char) :=
  match keys? (depthLimit - 1) text with
  | none => none
  | some (keys, rest) => keys.getLast?.map fun last => ((keys.dropLast, last), rest)

/-! ## Containers -/

/-- What reads a value at the front of a text. -/
abbrev ValueReader := List Char → Option (Node × List Char)

/-- The items of an array up to its closing bracket, given a bound on their number. -/
def items? (inner : ValueReader) : Nat → List Char → Option (List Node × List Char)
  | 0, _ => none
  | bound + 1, text =>
    match skipLayout text with
    | ']' :: rest => some ([], rest)
    | start =>
      match inner start with
      | none => none
      | some (item, rest) =>
        match skipLayout rest with
        | ',' :: more =>
          (items? inner bound more).map fun found => (item :: found.1, found.2)
        | ']' :: after => some ([item], after)
        | _ => none

/-- A pair of an inline table, and what follows. -/
def pair? (inner : ValueReader) (text : List Char) :
    Option (((List Key × Key) × Node) × List Char) :=
  match path? text with
  | some (path, '=' :: rest) =>
    (inner (skipBlanks rest)).map fun found => ((path, found.1), skipBlanks found.2)
  | _ => none

/-- The pairs of an inline table up to its closing bracket, added to a table, given a bound on
their number. -/
def pairs? (inner : ValueReader) : Nat → List Char → Table → Option (Table × List Char)
  | 0, _, _ => none
  | bound + 1, text, table =>
    match pair? inner text with
    | none => none
    | some (((path, key), node), rest) =>
      match Table.insert path key node .inline table with
      | none => none
      | some grown =>
        match rest with
        | ',' :: more => pairs? inner bound more grown
        | '\x7d' :: after => some (grown, after)
        | _ => none

/-! ## Values -/

/-- The value at the front of a text, and what follows, given how many levels may still be
nested. -/
def nested? : Nat → ValueReader
  | depth, text =>
    match depth, text with
    | depth + 1, '[' :: rest =>
      (items? (nested? depth) (rest.length + 1) rest).map fun found =>
        (.array found.1 (.upTo text found.2), found.2)
    | depth + 1, '\x7b' :: rest =>
      match skipBlanks rest with
      | '\x7d' :: after => some (.table .inline (some (.upTo text after)) [], after)
      | _ =>
        (pairs? (nested? depth) (rest.length + 1) rest []).map fun found =>
          (.table .inline (some (.upTo text found.2)) found.1, found.2)
    | _, _ => (scalar? text).map fun found => (.scalar found.1 (.upTo text found.2), found.2)

/-- The value at the front of a text, and what follows. -/
def value? : ValueReader :=
  nested? (depthLimit - 1)

end Toml

end ResourceHealth
