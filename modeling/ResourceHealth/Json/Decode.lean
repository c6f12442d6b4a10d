import ResourceHealth.Field
import ResourceHealth.Json.Draft
import ResourceHealth.Json.Value
import ResourceHealth.Mismatch

/-!
# Records from JSON

A record is read from an object by the names of its fields or from an array by
their order.  What is wrong first in the text is what is told, whether it is the
form of the text or the kind of a value.

Main definitions:

- `Json.Failure`: why a text is no record.
- `Json.Reader`: what reads a value from a draft.
- `Json.Slot`: a field with its reader, and `Json.readRecord`.
- `Json.readText`: a value from a whole text.
-/

namespace ResourceHealth

namespace Json

/-- Why a text is no record. -/
inductive Failure where
  /-- The text is not well formed. -/
  | malformed
  /-- A value has the wrong shape. -/
  | unsuitable (mismatch : Mismatch)
deriving DecidableEq

/-- What a failure says about the shape, if it is about the shape. -/
def Failure.message? : Failure → Option String
  | .malformed => none
  | .unsuitable mismatch => some (mismatch.message NumberStyle.json)

/-- What reads a value from a draft. -/
abbrev Reader (Value : Type) := Draft → Except Failure Value

/-! ## Plain values -/

/-- What a number is shown as; numbers that are too large are none. -/
def Numeral.found? : Numeral → Option Found
  | .counter n => some (.integer n)
  | .negative n => some (.integer (-n))
  | .binary x => if x.isFinite then some (.number x) else none

/-- What a value is shown as, if it is well formed as far as that goes. -/
def Draft.found? : Draft → Option Found
  | .null => some .null
  | .boolean value => some (.boolean value)
  | .number n => n.found?
  | .string text => text.map .text
  | .array _ _ => some .sequence
  | .object _ _ => some .map
  | .broken => none

/-- The failure of a value that is not of the expected kind. -/
def misfit (draft : Draft) (expected : Expected) : Failure :=
  match draft.found? with
  | some found => .unsuitable (.wrongType found expected)
  | none => .malformed

/-- Reads a number of any kind. -/
def readNumber : Reader Binary64
  | .number (.counter n) => .ok (Binary64.ofNat n)
  | .number (.negative n) => .ok (-Binary64.ofNat n)
  | .number (.binary x) => if x.isFinite then .ok x else .error .malformed
  | draft => .error (misfit draft .number)

/-- Reads a counter. -/
def readCounter : Reader Nat
  | .number (.counter n) => .ok n
  | .number (.negative n) => .error (.unsuitable (.wrongValue (.integer (-n)) .counter))
  | draft => .error (misfit draft .counter)

/-- Reads a boolean. -/
def readBoolean : Reader Bool
  | .boolean value => .ok value
  | draft => .error (misfit draft .boolean)

/-- Reads a text that is expected for the given purpose. -/
def readText (expected : Expected) : Reader (List Char)
  | .string (some text) => .ok text
  | draft => .error (misfit draft expected)

/-! ## Choices -/

/-- The choice of a name. -/
def choose {Value : Type} (choices : List (String × Value)) (name : List Char) :
    Except Failure Value :=
  match choices.lookup (String.ofList name) with
  | some value => .ok value
  | none => .error (.unsuitable (.unknownVariant name (choices.map (·.1))))

/-- Reads one of some named choices: a string, or an object with the name as its one key and
null as its value. -/
def readChoice {Value : Type} (choices : List (String × Value)) : Reader Value
  | .string (some name) => choose choices name
  | .object ((some name, value) :: others) ending =>
    match choose choices name with
    | .error failure => .error failure
    | .ok chosen =>
      match value with
      | .null => if others.isEmpty ∧ ending = .closed then .ok chosen else .error .malformed
      | _ => .error (misfit value .nothing)
  | _ => .error .malformed

/-! ## Records -/

/-- A field of a record with what reads it. -/
structure Slot (Record : Type) where
  name : String
  read : Draft → Except Failure (Record → Record)

/-- The slot of a field. -/
def Slot.ofField {Record Value : Type} (field : Field Record Value) (read : Reader Value) :
    Slot Record where
  name := field.name
  read draft := (read draft).map field.put

variable {Record : Type}

/-- Reads members one after the other: the record so far and the names that were given. -/
def readMembers (slots : List (Slot Record)) :
    List (Option (List Char) × Draft) → List String → Record →
      Except Failure (List String × Record)
  | [], given, record => .ok (given, record)
  | (none, _) :: _, _, _ => .error .malformed
  | (some key, draft) :: rest, given, record =>
    match slots.find? (·.name == String.ofList key) with
    | some slot =>
      if slot.name ∈ given then .error (.unsuitable (.duplicateField slot.name))
      else
        match slot.read draft with
        | .error failure => .error failure
        | .ok put => readMembers slots rest (slot.name :: given) (put record)
    | none =>
      if draft.isWhole then readMembers slots rest given record else .error .malformed

/-- Reads items in the order of the fields: the slots without an item, the items without a
slot and the record. -/
def readItems : List (Slot Record) → List Draft → Record →
    Except Failure (List (Slot Record) × List Draft × Record)
  | slot :: slots, draft :: drafts, record =>
    match slot.read draft with
    | .error failure => .error failure
    | .ok put => readItems slots drafts (put record)
  | slots, drafts, record => .ok (slots, drafts, record)

/-- Reads a record.  Fields that are not given keep the value they have in `start`, or are
missed if the record needs every field. -/
def readRecord (name : String) (slots : List (Slot Record)) (needsAll : Bool)
    (start : Record) : Reader Record
  | .object members ending =>
    match readMembers slots members [] start with
    | .error failure => .error failure
    | .ok (given, record) =>
      if ending ≠ .closed then .error .malformed
      else match slots.find? (fun slot => needsAll && !given.contains slot.name) with
        | some slot => .error (.unsuitable (.missingField slot.name))
        | none => .ok record
  | .array items ending =>
    match readItems slots items start with
    | .error failure => .error failure
    | .ok (missed, surplus, record) =>
      if ending ≠ .closed ∨ surplus.isEmpty = false then .error .malformed
      else if needsAll ∧ missed.isEmpty = false then
        .error (.unsuitable (.wrongLength items.length name slots.length))
      else .ok record
  | draft => .error (misfit draft (.record name))

/-! ## Whole texts -/

/-- Reads a value from a text that holds nothing else. -/
def read {Value : Type} (reader : Reader Value) (text : List Char) : Except Failure Value :=
  let draft := Draft.ofText text
  match reader draft.1 with
  | .error failure => .error failure
  | .ok value => if draft.2 then .ok value else .error .malformed

end Json

end ResourceHealth
