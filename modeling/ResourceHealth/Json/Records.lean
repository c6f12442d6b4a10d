import ResourceHealth.Json.Decode
import ResourceHealth.Monitor

/-!
# Samples, thresholds and health in JSON

Main definitions:

- `Sample.toJson`, `Thresholds.toJson`, `Health.toJson`, `Summary.toJson`: what is written.
- `Sample.readJson`, `Thresholds.readJson`, `Level.readJson`, `Health.readJson`: what is read.
-/

namespace ResourceHealth

/-- The numbers of a record as members of an object. -/
def Json.numbers {Record : Type} (fields : List (Field Record Binary64)) (record : Record) :
    Json :=
  .object ((Field.values fields record).map fun part => (part.1, .ofBinary64 part.2))

/-- The numbers of a record as slots. -/
def Json.numberSlots {Record : Type} (fields : List (Field Record Binary64)) :
    List (Json.Slot Record) :=
  fields.map fun field => .ofField field Json.readNumber

/-- A sample as an object of its figures. -/
def Sample.toJson (sample : Sample) : Json :=
  Json.numbers Sample.fields sample

/-- Reads a sample; all its figures are needed. -/
def Sample.readJson : Json.Reader Sample :=
  Json.readRecord Sample.recordName (Json.numberSlots Sample.fields) true (Sample.zeroed 0)

/-- Thresholds as an object of their figures. -/
def Thresholds.toJson (thresholds : Thresholds) : Json :=
  Json.numbers Thresholds.fields thresholds

/-- Reads thresholds; figures that are not given are the standard ones. -/
def Thresholds.readJson : Json.Reader Thresholds :=
  Json.readRecord Thresholds.recordName (Json.numberSlots Thresholds.fields) false
    Thresholds.standard

/-- A level as its name. -/
def Level.toJson (level : Level) : Json :=
  .string level.name.toList

/-- Reads the name of a level. -/
def Level.readJson : Json.Reader Level :=
  Json.readChoice (Level.all.map fun level => (level.name, level))

/-- Health as an object of its levels. -/
def Health.toJson (health : Health) : Json :=
  .object ((Field.values Health.fields health).map fun part => (part.1, part.2.toJson))

/-- Reads health; all its levels are needed. -/
def Health.readJson : Json.Reader Health :=
  Json.readRecord Health.recordName
    (Health.fields.map fun field => .ofField field Level.readJson) true
    ⟨.healthy, .healthy, .healthy⟩

/-- A summary as an object of its parts. -/
def Summary.toJson (summary : Summary) : Json :=
  .object [("latest", summary.latest.toJson), ("history_size", .counter summary.historySize),
    ("health_status", summary.health.toJson)]

end ResourceHealth
