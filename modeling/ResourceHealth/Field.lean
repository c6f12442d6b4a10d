/-!
# Fields

Records are read, written and listed by the names of their parts.

Main definitions:

- `Field`: a named part of a record.
- `Field.assign`: a record with the part of a given name replaced.
- `listing`: a record shown as a listing of fields.
-/

namespace ResourceHealth

/-- A named part of a record. -/
structure Field (Record Value : Type) where
  name : String
  get : Record → Value
  put : Value → Record → Record

namespace Field

variable {Record Value : Type}

/-- The record with the values of some named parts replaced, one after the other; names that
no field has are passed over. -/
def assign (fields : List (Field Record Value)) (values : List (String × Value))
    (record : Record) : Record :=
  values.foldl (fun current value =>
    match fields.find? (·.name == value.1) with
    | some field => field.put value.2 current
    | none => current) record

/-- The names and values of all parts. -/
def values (fields : List (Field Record Value)) (record : Record) : List (String × Value) :=
  fields.map fun field => (field.name, field.get record)

end Field

/-- A listing of fields: the name of the record and its parts, `closing` standing for parts
that are not told. -/
def listing (name : String) (parts : List (String × String)) (closing : List String) :
    String :=
  name ++ " \x7b " ++
    ", ".intercalate (parts.map (fun part => part.1 ++ ": " ++ part.2) ++ closing) ++ " \x7d"

end ResourceHealth
