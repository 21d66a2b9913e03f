import SchemaAtlas.Dialect.Basic
import SchemaAtlas.Json.Text

/-! # MongoDB

A table becomes a collection with a validator: a property for each column with its type, which
admits null unless a value must be present. The validator exists twice, as a document value and as
the text inside the script.
-/

namespace SchemaAtlas.Dialect.MongoDB

open Schema Document

/-- The fragments that decide the type of a property; the first rule that applies wins. -/
def typeRules : List (List String × String) :=
  [(["bigint", "int8", "long"], "long"), (["interval"], "string"), (["int"], "int"),
    (["bool"], "bool"), (["date", "time"], "date"), (["float", "double", "real"], "double"),
    (["decimal", "numeric", "money"], "decimal"), (["json"], "object"), (["array", "[]"], "array")]

/-- The type of a property. -/
def typeName (type : String) : String :=
  let lowered := Text.lower type.toList
  let rule := typeRules.find? fun rule =>
    rule.1.any fun fragment => Text.contains fragment.toList lowered
  rule.elim "string" (·.2)

/-- The description of a column, unless it is empty. -/
def description? (column : Column) : Option String := column.description.filter (· != "")

/-- The schema of a property as a value. -/
def propertySchema (column : Column) : Entries :=
  let type := typeName column.type
  Entries.named ([("bsonType",
      if column.required then Value.text type else .list [.text type, .text "null"])] ++
    (description? column).elim [] fun text => [("description", .text text)])

/-- The names of the columns that always hold a value. -/
def requiredNames (table : Table) : List String :=
  (table.columns.filter (·.required)).map (·.name)

/-- The validator of a table as a value. -/
def validator (table : Table) : Entries :=
  let required := requiredNames table
  Entries.named ([("bsonType", .text "object")] ++
    (if required.isEmpty then [] else [("required", .list (required.map .text))]) ++
    [("properties", .dict (table.columns.map fun column =>
      (.text column.name, .dict (propertySchema column))))])

/-- Strings as a list on one line. -/
def stringList (names : List String) : String :=
  "[" ++ Text.joined ", " (names.map Json.quoted) ++ "]"

/-- The schema of a property as text. -/
def propertyText (column : Column) : String :=
  let type := typeName column.type
  let written := if column.required then Json.quoted type else stringList [type, "null"]
  "\x7b\"bsonType\": " ++ written ++
    ((description? column).elim "" fun text => ", \"description\": " ++ Json.quoted text) ++ "\x7d"

/-- The entry of a column among the properties. -/
def columnDefinition (column : Column) : String :=
  Json.quoted column.name ++ ": " ++ propertyText column

/-- The lines of a table's options. -/
def optionLines (table : Table) : List String :=
  let required := requiredNames table
  ["\x7b", "  \"validator\": \x7b", "    \"$jsonSchema\": \x7b", "      \"bsonType\": \"object\","] ++
    (if required.isEmpty then [] else ["      \"required\": " ++ stringList required ++ ","]) ++
    ["      \"properties\": \x7b"] ++
    (if table.columns.isEmpty then []
      else [Text.joined ",\n" (table.columns.map fun column => "        " ++ columnDefinition column)]) ++
    ["      \x7d", "    \x7d", "  \x7d", "\x7d"]

/-- The statement that creates a collection. -/
def createCollection (table : Table) : String :=
  "db.getSiblingDB(" ++ Json.quoted table.key.db ++ ").createCollection(" ++
    Json.quoted table.key.table ++ ", " ++ Text.joined "\n" (optionLines table) ++ ");"

/-- The opening lines of a script. -/
def openingLines (project : String) : List String :=
  ["// MongoDB schema validation script", "// Project: " ++ project,
    "// Run this in mongosh or through a driver"]

/-- The script of a schema graph. -/
def ofGraph (graph : Graph) : String :=
  script (openingLines graph.project) ((byKey graph.tables).map createCollection)

end SchemaAtlas.Dialect.MongoDB
