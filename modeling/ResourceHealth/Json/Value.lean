import ResourceHealth.Binary64.Text

/-!
# JSON values

Values as records are written in them, and their text.

Main definitions:

- `Json`: the values.
- `Json.compact`: the text on one line.
- `Json.pretty`: the text with one entry a line, keys in order.
-/

namespace ResourceHealth

/-- A JSON value. -/
inductive Json where
  | null
  | boolean (value : Bool)
  | counter (value : Nat)
  | number (value : Binary64)
  | string (value : List Char)
  | array (items : List Json)
  | object (members : List (String × Json))

/-- Numbers in JSON: an exponent below `1e-5` and from `1e16` on, with its sign; what is no
number in JSON is null. -/
def NumberStyle.json : NumberStyle where
  tie := .toEven
  positional := fun e => -5 ≤ e ∧ e ≤ 15
  keepsPoint := true
  plusSign := true
  nanText := "null".toList
  infinityText := "null".toList

namespace Json

/-- A number, or null for what JSON has no number for. -/
def ofBinary64 (x : Binary64) : Json :=
  if x.isFinite then .number x else .null

/-! ## Text -/

/-- How a character is written between quotes. -/
def escapedChar (c : Char) : List Char :=
  match c with
  | '"' => ['\\', '"']
  | '\\' => ['\\', '\\']
  | '\n' => ['\\', 'n']
  | '\r' => ['\\', 'r']
  | '\t' => ['\\', 't']
  | '\x08' => ['\\', 'b']
  | '\x0c' => ['\\', 'f']
  | _ =>
    if c.toNat < 0x20 then
      let digits := Nat.toDigits 16 c.toNat
      ['\\', 'u'] ++ List.replicate (4 - digits.length) '0' ++ digits
    else [c]

/-- A text between quotes. -/
def quotedText (text : List Char) : List Char :=
  '"' :: (text.flatMap escapedChar ++ ['"'])

mutual

/-- The text of a value on one line. -/
def compact : Json → List Char
  | null => "null".toList
  | boolean true => "true".toList
  | boolean false => "false".toList
  | counter n => Nat.toDigits 10 n
  | number x => NumberStyle.json.write x
  | string text => quotedText text
  | array items => '[' :: (compactItems items ++ [']'])
  | object members => '\x7b' :: (compactMembers members ++ ['\x7d'])

/-- The texts of items with commas between them. -/
def compactItems : List Json → List Char
  | [] => []
  | [item] => item.compact
  | item :: next :: rest => item.compact ++ ',' :: compactItems (next :: rest)

/-- The texts of members with commas between them. -/
def compactMembers : List (String × Json) → List Char
  | [] => []
  | [(key, value)] => quotedText key.toList ++ ':' :: value.compact
  | (key, value) :: next :: rest =>
    quotedText key.toList ++ ':' :: (value.compact ++ ',' :: compactMembers (next :: rest))

end

/-- A new line, indented by two blanks a level. -/
def newLine (depth : Nat) : List Char :=
  '\n' :: List.replicate (2 * depth) ' '

mutual

/-- The text of a value with one entry a line. -/
def pretty (depth : Nat) : Json → List Char
  | array [] => ['[', ']']
  | array items => '[' :: (prettyItems (depth + 1) items ++ newLine depth ++ [']'])
  | object [] => ['\x7b', '\x7d']
  | object members =>
    '\x7b' :: (prettyMembers (depth + 1) members ++ newLine depth ++ ['\x7d'])
  | null => "null".toList
  | boolean true => "true".toList
  | boolean false => "false".toList
  | counter n => Nat.toDigits 10 n
  | number x => NumberStyle.json.write x
  | string text => quotedText text

/-- The texts of items, each on a line of its own. -/
def prettyItems (depth : Nat) : List Json → List Char
  | [] => []
  | [item] => newLine depth ++ item.pretty depth
  | item :: next :: rest =>
    newLine depth ++ item.pretty depth ++ ',' :: prettyItems depth (next :: rest)

/-- The texts of members, each on a line of its own. -/
def prettyMembers (depth : Nat) : List (String × Json) → List Char
  | [] => []
  | [(key, value)] =>
    newLine depth ++ quotedText key.toList ++ ':' :: ' ' :: value.pretty depth
  | (key, value) :: next :: rest =>
    newLine depth ++ quotedText key.toList ++
      ':' :: ' ' :: (value.pretty depth ++ ',' :: prettyMembers depth (next :: rest))

end

/-! ## Order of keys -/

/-- Members in the order of their keys. -/
def inOrder (members : List (String × Json)) : List (String × Json) :=
  members.mergeSort fun a b => decide (a.1 ≤ b.1)

mutual

/-- The value with all keys in order. -/
def sorted : Json → Json
  | array items => array (sortedItems items)
  | object members => object (inOrder (sortedMembers members))
  | null => null
  | boolean value => boolean value
  | counter value => counter value
  | number value => number value
  | string value => string value

/-- Items with all keys in order. -/
def sortedItems : List Json → List Json
  | [] => []
  | item :: rest => item.sorted :: sortedItems rest

/-- Members with all keys of their values in order. -/
def sortedMembers : List (String × Json) → List (String × Json)
  | [] => []
  | (key, value) :: rest => (key, value.sorted) :: sortedMembers rest

end

/-- The text of a value: on one line in the order given, or one entry a line with the keys in
order. -/
def text (value : Json) (isPretty : Bool) : String :=
  String.ofList (if isPretty then value.sorted.pretty 0 else value.compact)

end Json

end ResourceHealth
