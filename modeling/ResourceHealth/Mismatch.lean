import ResourceHealth.Binary64.Text
import ResourceHealth.Text.Escaped

/-!
# Mismatches

A document may be well formed and yet not have the shape of the record that is
read from it.  A mismatch says what was found and what was expected there.

Main definitions:

- `Found`, `Expected`: the two sides.
- `Mismatch`: a mismatch, and `Mismatch.message`.
-/

namespace ResourceHealth

/-- What stands in a document. -/
inductive Found where
  | text (value : List Char)
  | integer (value : Int)
  | number (value : Binary64)
  | boolean (value : Bool)
  | null
  | sequence
  | map
deriving DecidableEq

/-- What a record needs in a place. -/
inductive Expected where
  | counter
  | boolean
  | path
  | number
  | nothing
  | record (name : String)
deriving DecidableEq

/-- Why a document does not fit a record. -/
inductive Mismatch where
  /-- A value of a wrong kind. -/
  | wrongType (found : Found) (expected : Expected)
  /-- A value of the right kind that is out of range. -/
  | wrongValue (found : Found) (expected : Expected)
  /-- A field without a value. -/
  | missingField (name : String)
  /-- A field with two values. -/
  | duplicateField (name : String)
  /-- A name that is none of the choices. -/
  | unknownVariant (name : List Char) (choices : List String)
  /-- A sequence that ends before the record is complete. -/
  | wrongLength (length : Nat) (record : String) (fields : Nat)
deriving DecidableEq

/-- How a finding is shown, given how numbers are written. -/
def Found.shown (numbers : NumberStyle) : Found → String
  | .text value => "string " ++ quoted value
  | .integer value => s!"integer `{value}`"
  | .number value => "floating point `" ++ String.ofList (numbers.write value) ++ "`"
  | .boolean value => s!"boolean `{value}`"
  | .null => "null"
  | .sequence => "sequence"
  | .map => "map"

/-- How an expectation is shown. -/
def Expected.shown : Expected → String
  | .counter => "usize"
  | .boolean => "a boolean"
  | .path => "path string"
  | .number => "f64"
  | .nothing => "unit"
  | .record name => "struct " ++ name

namespace Mismatch

/-- A name between the quotes that messages put around names. -/
def namedShown (name : String) : String :=
  "`" ++ name ++ "`"

/-- How a mismatch is shown, given how numbers are written. -/
def message (numbers : NumberStyle) : Mismatch → String
  | wrongType found expected =>
    "invalid type: " ++ found.shown numbers ++ ", expected " ++ expected.shown
  | wrongValue found expected =>
    "invalid value: " ++ found.shown numbers ++ ", expected " ++ expected.shown
  | missingField name => "missing field " ++ namedShown name
  | duplicateField name => "duplicate field " ++ namedShown name
  | unknownVariant name choices =>
    "unknown variant " ++ namedShown (String.ofList name) ++ ", expected one of " ++
      ", ".intercalate (choices.map namedShown)
  | wrongLength length record fields =>
    s!"invalid length {length}, expected struct {record} with {fields} elements"

end Mismatch

end ResourceHealth
