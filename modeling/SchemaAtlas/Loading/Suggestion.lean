import SchemaAtlas.Keyed
import SchemaAtlas.Text.Case
import SchemaAtlas.Text.Split

/-! # Suggestions

Hints on how to mend a document, from the errors that were found in it and from its text.
-/

namespace SchemaAtlas.Loading

/-- The hints that an error gives. -/
def hintsOf (error : String) : List String :=
  if Text.mentions error "JSON syntax" then
    ["Check for missing commas between object properties", "Ensure all strings are properly quoted"]
  else if Text.mentions error "YAML syntax" then
    ["Check indentation consistency (use spaces, not tabs)", "Verify list item format (- item)"]
  else if Text.mentions error "duplicate column" then
    ["Column names must be unique within a table"]
  else if Text.mentions (Text.lowered error) "required" then
    ["Ensure required fields are present: db and tables for targets, " ++
      "name for tables and columns, id and kind for sources, target for mappings"]
  else []

/-- The hints that a text gives. -/
def hintsOfText (text : String) : List String :=
  if Text.mentions text "targets" then [] else ["DSL document should contain a 'targets' list"]

/-- The greatest number of suggestions. -/
def mostSuggestions : Nat := 5

/-- The first few hints for a text and its errors, each once. -/
def suggestions (text : String) (errors : List String) : List String :=
  (Keyed.distinct (errors.flatMap hintsOf ++ hintsOfText text)).take mostSuggestions

end SchemaAtlas.Loading
