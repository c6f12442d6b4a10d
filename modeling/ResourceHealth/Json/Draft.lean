import ResourceHealth.Json.Token

/-!
# Drafts

What is well formed of a JSON text, up to the first place where it is not.  A
draft shows the values before that place, so that a value of a wrong kind before
it is found first.

Tokens are put together with the open containers held in a list, innermost first.

Main definitions:

- `Json.Draft`: a value as far as it is well formed.
- `Json.Draft.isWhole`: whether it is well formed to its end.
- `Json.Draft.ofText`: the draft of a text.
-/

namespace ResourceHealth

namespace Json

/-- How a container ends. -/
inductive Ending where
  /-- With its closing bracket. -/
  | closed
  /-- Before a token that cannot stand there, or with the text. -/
  | cut
deriving DecidableEq

/-- A value as far as it is well formed. -/
inductive Draft where
  | null
  | boolean (value : Bool)
  | number (value : Numeral)
  | string (text : Option (List Char))
  | array (items : List Draft) (ending : Ending)
  | object (members : List (Option (List Char) × Draft)) (ending : Ending)
  /-- Nothing well formed stands here. -/
  | broken

namespace Draft

mutual

/-- Whether a value is well formed to its end.  The characters of strings do not matter. -/
def isWhole : Draft → Bool
  | null => true
  | boolean _ => true
  | number _ => true
  | string _ => true
  | array items ending => decide (ending = .closed) && areWhole items
  | object members ending => decide (ending = .closed) && areWholeMembers members
  | broken => false

/-- Whether items are well formed to their ends. -/
def areWhole : List Draft → Bool
  | [] => true
  | item :: rest => item.isWhole && areWhole rest

/-- Whether members are well formed to their ends. -/
def areWholeMembers : List (Option (List Char) × Draft) → Bool
  | [] => true
  | (_, value) :: rest => value.isWhole && areWholeMembers rest

end

/-! ## Putting tokens together -/

/-- An open container with what it holds so far, newest first. -/
inductive Frame where
  | array (items : List Draft)
  | object (members : List (Option (List Char) × Draft))
  /-- An object in which a key waits for its value. -/
  | member (members : List (Option (List Char) × Draft)) (key : Option (List Char))

/-- The container of a frame, ended. -/
def Frame.close (ending : Ending) : Frame → Draft
  | array items => .array items.reverse ending
  | object members => .object members.reverse ending
  | member members key => .object ((key, .broken) :: members).reverse ending

/-- A frame with one more value. -/
def Frame.add (value : Draft) : Frame → Frame
  | array items => array (value :: items)
  | object members => object members
  | member members key => object ((key, value) :: members)

/-- The outermost container when the text breaks off. -/
def cutOff : List Frame → Draft
  | [] => broken
  | [frame] => frame.close .cut
  | frame :: outer :: rest => cutOff (outer.add (frame.close .cut) :: rest)
termination_by frames => frames.length

/-- What may stand next. -/
inductive Expecting where
  /-- A value. -/
  | value
  /-- The first item of an array or its end. -/
  | item
  /-- The first key of an object or its end. -/
  | firstKey
  /-- A key. -/
  | key
  /-- A colon. -/
  | colon
  /-- A comma or the end of the container. -/
  | comma

/-- The value of a token that is one by itself. -/
def ofToken? : Token → Option Draft
  | .null => some null
  | .boolean value => some (boolean value)
  | .number value => some (number value)
  | .string text => some (string text)
  | _ => none

/-- Puts tokens together to one value; the tokens that follow it remain. -/
def build : List Frame → Expecting → List Token → Draft × List Token
  | frames, _, [] => (cutOff frames, [])
  | frames, .value, token :: rest => buildValue frames token rest
  | .array items :: outer, .item, .closeArray :: rest =>
    buildDone outer (.array items.reverse .closed) rest
  | frames, .item, token :: rest => buildValue frames token rest
  | .object members :: outer, .firstKey, .closeObject :: rest =>
    buildDone outer (.object members.reverse .closed) rest
  | .object members :: outer, .firstKey, .string key :: rest =>
    build (.member members key :: outer) .colon rest
  | .object members :: outer, .key, .string key :: rest =>
    build (.member members key :: outer) .colon rest
  | frames, .colon, .colon :: rest => build frames .value rest
  | .array items :: outer, .comma, .comma :: rest => build (.array items :: outer) .value rest
  | .object members :: outer, .comma, .comma :: rest => build (.object members :: outer) .key rest
  | .array items :: outer, .comma, .closeArray :: rest =>
    buildDone outer (.array items.reverse .closed) rest
  | .object members :: outer, .comma, .closeObject :: rest =>
    buildDone outer (.object members.reverse .closed) rest
  | frames, _, _ :: _ => (cutOff frames, [])
where
  /-- Goes on after a token that should start a value. -/
  buildValue (frames : List Frame) (token : Token) (rest : List Token) :
      Draft × List Token :=
    match token with
    | .openArray => build (.array [] :: frames) .item rest
    | .openObject => build (.object [] :: frames) .firstKey rest
    | _ =>
      match ofToken? token with
      | some value => buildDone frames value rest
      | none => (cutOff frames, [])
  /-- Goes on after a value that is complete. -/
  buildDone (frames : List Frame) (value : Draft) (rest : List Token) : Draft × List Token :=
    match frames with
    | [] => (value, rest)
    | frame :: outer => build (frame.add value :: outer) .comma rest

/-- The draft of a text, and whether nothing but gaps follows it. -/
def ofText (text : List Char) : Draft × Bool :=
  let built := build [] .value (Token.scan text)
  (built.1, built.2.isEmpty)

end Draft

end Json

end ResourceHealth
