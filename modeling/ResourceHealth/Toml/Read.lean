import ResourceHealth.Field
import ResourceHealth.Mismatch
import ResourceHealth.Toml.Document

/-!
# Records from TOML

A record is read from a table by the names of its fields, or from an array by
their order.  Values are looked at in the order in which the document gives them,
and the first that does not fit is told with its place.

Main definitions:

- `Toml.Misfit`: a value that does not fit, with its place.
- `Toml.Slot`: a field with what reads it.
- `Toml.readPairs`, `Toml.readRecord`: a record from a table, and from any node.
-/

namespace ResourceHealth

namespace Toml

/-- A value that does not fit, with its place. -/
structure Misfit where
  span : Span
  mismatch : Mismatch
deriving DecidableEq

/-- What a node is shown as. -/
def Node.found : Node → Found
  | .scalar (.string text) _ => .text text
  | .scalar (.integer value) _ => .integer value
  | .scalar (.float value) _ => .number value
  | .scalar (.boolean value) _ => .boolean value
  | .scalar .dateTime _ => .map
  | .array _ _ => .sequence
  | .table _ _ _ => .map
  | .tables _ _ => .sequence

/-- What reads a value from a node, given its place. -/
abbrev NodeReader (Value : Type) := Span → Node → Except Misfit Value

/-- A node that is not of the expected kind. -/
def wrong {Value : Type} (span : Span) (node : Node) (expected : Expected) :
    Except Misfit Value :=
  .error ⟨span, .wrongType node.found expected⟩

/-! ## Plain values -/

/-- Reads a counter. -/
def readCounter : NodeReader Nat
  | span, .scalar (.integer value) _ =>
    if value < 0 then .error ⟨span, .wrongValue (.integer value) .counter⟩
    else .ok value.toNat
  | span, node => wrong span node .counter

/-- Reads a boolean. -/
def readBoolean : NodeReader Bool
  | _, .scalar (.boolean value) _ => .ok value
  | span, node => wrong span node .boolean

/-- Reads a text that is expected for the given purpose. -/
def readText (expected : Expected) : NodeReader (List Char)
  | _, .scalar (.string text) _ => .ok text
  | span, node => wrong span node expected

/-- Reads a number, which may be given as an integer. -/
def readNumber : NodeReader Binary64
  | _, .scalar (.float value) _ => .ok value
  | _, .scalar (.integer value) _ => .ok (Binary64.ofInt value)
  | span, node => wrong span node .number

/-! ## Records -/

/-- A field of a record with what reads it. -/
structure Slot (Record : Type) where
  name : String
  read : NodeReader (Record → Record)

/-- The slot of a field. -/
def Slot.ofField {Record Value : Type} (field : Field Record Value)
    (read : NodeReader Value) : Slot Record where
  name := field.name
  read span node := (read span node).map field.put

variable {Record : Type}

/-- The record with what a table gives for it; other keys are passed over.  A table without a
stretch of its own is shown at its key. -/
def readPairs (slots : List (Slot Record)) : Table → Record → Except Misfit Record
  | [], record => .ok record
  | (key, node) :: rest, record =>
    match slots.find? (·.name.toList == key.name) with
    | none => readPairs slots rest record
    | some slot =>
      match slot.read (node.span?.getD key.span) node with
      | .error misfit => .error misfit
      | .ok put => readPairs slots rest (put record)

/-- The record with what items give for it, in the order of the fields; items beyond them are
passed over. -/
def readItems (span : Span) : List (Slot Record) → List Node → Record → Except Misfit Record
  | slot :: slots, item :: items, record =>
    match slot.read (item.span?.getD span) item with
    | .error misfit => .error misfit
    | .ok put => readItems span slots items (put record)
  | _, _, record => .ok record

/-- Reads a record; fields that are not given keep the value they have in `start`.  A date is
like a table without any of the keys. -/
def readRecord (name : String) (slots : List (Slot Record)) (start : Record) :
    NodeReader Record
  | _, .table _ _ pairs => readPairs slots pairs start
  | _, .scalar .dateTime _ => .ok start
  | span, .array items _ => readItems span slots items start
  | span, .tables elements _ => readItems span slots elements start
  | span, node => wrong span node (.record name)

end Toml

end ResourceHealth
