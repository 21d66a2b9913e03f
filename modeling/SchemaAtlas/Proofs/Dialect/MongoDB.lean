import SchemaAtlas.Dialect.MongoDB
import SchemaAtlas.Proofs.Json.Written
import SchemaAtlas.Proofs.Text.Split

/-! # The validator in a script is the validator as a value

A script writes the validator line by line, with its braces and commas placed by hand, while the
value is built at once. Read as JSON, the text gives exactly the value, whatever the names and
descriptions of a table hold. In it a column is listed as required just when its type admits no null.
Only a text that is no sequence of characters is not read back: two halves of a pair in a row are
written as the character that they make.
-/

namespace SchemaAtlas.Dialect.MongoDB

open Schema Document Json

section Strings

theorem writesItems_strings {names : List String} (nonempty : names ≠ []) :
    WritesItems ((Text.joined ", " (names.map quoted)).toList ++ [']']) (names.map .text) := by
  induction names with
  | nil => contradiction
  | cons name names ih =>
    cases names with
    | nil => simpa [Text.joined] using writesItems_last (writes_quoted name) isBlank_nil
    | cons next names =>
      have items := writesItems_cons (writes_quoted name) isBlank_single (ih (by simp))
      simpa [Text.joined] using items

/-- A list of strings on one line. -/
theorem writes_stringList {names : List String} (nonempty : names ≠ []) :
    Writes (stringList names).toList (.list (names.map .text)) := by
  have list := writes_list isBlank_nil (writesItems_strings nonempty)
  simpa [stringList] using list

end Strings

section Columns

/-- The type of a column, which admits null unless a value must be present. -/
def typeValue (column : Column) : Value :=
  if column.required then .text (typeName column.type)
  else .list [.text (typeName column.type), .text "null"]

theorem writes_typeValue (column : Column) :
    Writes (if column.required then quoted (typeName column.type)
      else stringList [typeName column.type, "null"]).toList (typeValue column) := by
  unfold typeValue
  split
  · exact writes_quoted _
  · exact writes_stringList (by simp)

theorem writes_propertyText (column : Column) :
    Writes (propertyText column).toList (.dict (propertySchema column)) := by
  have typed := writes_typeValue column
  cases described : description? column with
  | none =>
    have last : WritesMembers _ [("bsonType", typeValue column)] :=
      writesMembers_last typed isBlank_nil
    have object := writes_object (by simp) isBlank_nil last
    simpa [propertyText, propertySchema, described, typeValue, quote, escapeChar] using object
  | some text =>
    have last : WritesMembers _ [("description", .text text)] :=
      writesMembers_last (writes_quoted text) isBlank_nil
    have both : WritesMembers _ [("bsonType", typeValue column), ("description", .text text)] :=
      writesMembers_cons typed isBlank_single last
    have object := writes_object (by simp) isBlank_nil both
    simpa [propertyText, propertySchema, described, typeValue, quote, escapeChar] using object

/-- The properties of columns by their names. -/
def properties (columns : List Column) : List (String × Value) :=
  columns.map fun column => (column.name, .dict (propertySchema column))

theorem properties_nodup (table : Table) : ((properties table.columns).map Prod.fst).Nodup := by
  rw [properties, List.map_map]
  exact table.names_nodup

/-- The properties one a line, from the first name to the closing brace. -/
theorem writesMembers_columns {columns : List Column} (nonempty : columns ≠ []) :
    ∃ text, (Text.joined ",\n" (columns.map fun column => "        " ++ columnDefinition column) ++
        "\n      \x7d").toList = "        ".toList ++ text ∧
      WritesMembers text (properties columns) := by
  have between : IsBlank "\n        ".toList := by simp [IsBlank, isSpace]
  have closing : IsBlank "\n      ".toList := by simp [IsBlank, isSpace]
  induction columns with
  | nil => contradiction
  | cons column columns ih =>
    have property := writes_propertyText column
    cases columns with
    | nil =>
      have last : WritesMembers _ [(column.name, .dict (propertySchema column))] :=
        writesMembers_last property closing
      refine ⟨_, ?_, last⟩
      simp [Text.joined, columnDefinition, quoted]
    | cons next columns =>
      obtain ⟨text, layout, written⟩ := ih (by simp)
      refine ⟨_, ?_, writesMembers_cons property between written⟩
      have split : Text.joined ",\n" ((column :: next :: columns).map fun column =>
            "        " ++ columnDefinition column) ++ "\n      \x7d" =
          "        " ++ columnDefinition column ++ ",\n" ++
            (Text.joined ",\n" ((next :: columns).map fun column =>
              "        " ++ columnDefinition column) ++ "\n      \x7d") := by
        rw [List.map_cons, List.map_cons, Text.joined_cons_cons, String.append_assoc]
      rw [split, String.toList_append, layout]
      simp [columnDefinition, quoted]

end Columns

section Options

/-- The properties of a table as text. -/
def propertiesText (table : Table) : String :=
  "\x7b\n" ++ (if table.columns.isEmpty then "" else Text.joined ",\n"
    (table.columns.map fun column => "        " ++ columnDefinition column) ++ "\n") ++ "      \x7d"

/-- The properties of a table as a value. -/
def propertiesValue (table : Table) : Value := .dict (Entries.named (properties table.columns))

theorem writes_propertiesText (table : Table) :
    Writes (propertiesText table).toList (propertiesValue table) := by
  cases declared : table.columns with
  | nil =>
    have blank : IsBlank "\n      ".toList := by simp [IsBlank, isSpace]
    simpa [propertiesText, propertiesValue, properties, declared] using writes_empty blank
  | cons column columns =>
    have blank : IsBlank "\n        ".toList := by simp [IsBlank, isSpace]
    have nonempty : table.columns ≠ [] := by simp [declared]
    obtain ⟨text, layout, written⟩ := writesMembers_columns nonempty
    have object := writes_object (properties_nodup table) blank written
    have split : (propertiesText table).toList = '\x7b' :: ("\n        ".toList ++ text) := by
      have parts : propertiesText table = "\x7b\n" ++ (Text.joined ",\n"
          (table.columns.map fun column => "        " ++ columnDefinition column) ++
            "\n      \x7d") := by
        simp [propertiesText, nonempty, ← String.toList_inj]
      rw [parts, String.toList_append, layout]
      simp
    rw [split]
    exact object

/-- The line that lists the columns that always hold a value, if there are any. -/
def requiredLine (table : Table) : String :=
  if (requiredNames table).isEmpty then ""
  else "      \"required\": " ++ stringList (requiredNames table) ++ ",\n"

/-- The lines of the options joined into one text. -/
theorem joined_optionLines (table : Table) :
    Text.joined "\n" (optionLines table) =
      "\x7b\n  \"validator\": \x7b\n    \"$jsonSchema\": \x7b\n      \"bsonType\": \"object\",\n" ++
        requiredLine table ++ "      \"properties\": " ++ propertiesText table ++
          "\n    \x7d\n  \x7d\n\x7d" := by
  rw [← String.toList_inj]
  by_cases none : (requiredNames table).isEmpty <;> by_cases empty : table.columns.isEmpty <;>
    simp [optionLines, requiredLine, propertiesText, none, empty, Text.joined]

/-- The entries of a validator, with or without required columns. -/
theorem validator_eq (table : Table) :
    validator table = Entries.named ([("bsonType", .text "object")] ++
      (if (requiredNames table).isEmpty then []
        else [("required", .list ((requiredNames table).map .text))]) ++
      [("properties", propertiesValue table)]) := by
  simp [validator, propertiesValue, properties, Entries.named]

/-- The options of a table as a value. -/
def options (table : Table) : Value :=
  .dict (Entries.named [("validator", .dict (Entries.named
    [("$jsonSchema", .dict (validator table))]))])

/-- The lines of the options write the options, whether or not there are required columns. -/
theorem writes_options (table : Table) :
    Writes (Text.joined "\n" (optionLines table)).toList (options table) := by
  have between : IsBlank "\n      ".toList := by simp [IsBlank, isSpace]
  have inner : IsBlank "\n    ".toList := by simp [IsBlank, isSpace]
  have outer : IsBlank "\n  ".toList := by simp [IsBlank, isSpace]
  have line : IsBlank "\n".toList := by simp [IsBlank, isSpace]
  have last : WritesMembers _ [("properties", propertiesValue table)] :=
    writesMembers_last (writes_propertiesText table) inner
  have enclosed {text : List Char} {members : List (String × Value)}
      (written : WritesMembers text members) (nodup : (members.map Prod.fst).Nodup) :
      Writes _ (.dict (Entries.named [("validator", .dict (Entries.named
        [("$jsonSchema", .dict (Entries.named members))]))])) :=
    writes_object (by simp) outer (writesMembers_last (writes_object (by simp) inner
      (writesMembers_last (writes_object nodup between written) outer)) line)
  rw [joined_optionLines]
  cases listed : requiredNames table with
  | nil =>
    have members : WritesMembers _ [("bsonType", .text "object"),
        ("properties", propertiesValue table)] :=
      writesMembers_cons (writes_quoted "object") between last
    have written := enclosed members (by simp)
    simpa [options, validator_eq, requiredLine, listed, quoted, quote, escapeChar]
      using written
  | cons name names =>
    have required : Writes _ (.list ((requiredNames table).map .text)) :=
      writes_stringList (by simp [listed])
    have members : WritesMembers _ [("bsonType", .text "object"),
        ("required", .list ((requiredNames table).map .text)),
        ("properties", propertiesValue table)] :=
      writesMembers_cons (writes_quoted "object") between
        (writesMembers_cons required between last)
    have written := enclosed members (by simp)
    simpa [options, validator_eq, requiredLine, listed, quoted, quote, escapeChar]
      using written

end Options

section Required

/-- What a schema lists as required. -/
def requiredItems (schema : Entries) : List Value :=
  match schema.get "required" with
  | .list items => items
  | _ => []

/-- The type that a schema gives to the property of a name. -/
def propertyType (schema : Entries) (name : String) : Value :=
  Entries.get (Entries.get (schema.get "properties").entries name).entries "bsonType"

variable (table : Table)

theorem get_properties : (validator table).get "properties" = propertiesValue table := by
  cases listed : requiredNames table <;> simp [validator_eq, listed]

theorem requiredItems_validator :
    requiredItems (validator table) = (requiredNames table).map .text := by
  have missing : Entries.get [] "required" = .null := rfl
  cases listed : requiredNames table <;> simp [requiredItems, validator_eq, listed, missing]

variable {table} {column : Column}

/-- Names tell columns apart, so a listed name belongs to a column that always holds a value. -/
theorem mem_requiredItems_iff (member : column ∈ table.columns) :
    Value.text column.name ∈ requiredItems (validator table) ↔ column.required = true := by
  rw [requiredItems_validator, List.mem_map]
  constructor
  · rintro ⟨name, listed, same⟩
    cases same
    obtain ⟨other, inside, same⟩ := List.mem_map.mp listed
    obtain ⟨held, required⟩ := List.mem_filter.mp inside
    obtain rfl := List.inj_on_of_nodup_map table.names_nodup held member same
    exact required
  · intro required
    exact ⟨column.name, List.mem_map_of_mem (List.mem_filter.mpr ⟨member, required⟩), rfl⟩

theorem propertyType_validator (member : column ∈ table.columns) :
    propertyType (validator table) column.name = typeValue column := by
  rw [propertyType, get_properties, propertiesValue, Value.entries,
    Entries.get_named_of_mem (properties_nodup table) (List.mem_map_of_mem member)]
  simp [Value.entries, propertySchema, typeValue]

end Required

/-- A statement that creates a collection names its database and collection and holds its validator,
each as JSON: the properties stand in the order of the columns, and a column is required just when
its type is single and does not admit null. -/
theorem createCollection_reads (table : Table) :
    ∃ db name written,
      createCollection table = "db.getSiblingDB(" ++ db ++ ").createCollection(" ++ name ++ ", " ++
        written ++ ");" ∧
      Json.read db = .ok (.text table.key.db) ∧
      Json.read name = .ok (.text table.key.table) ∧
      Json.read written = .ok (options table) ∧
      ((validator table).get "properties").entries.map Prod.fst =
        table.columns.map (fun column => .text column.name) ∧
      ∀ column ∈ table.columns,
        (Value.text column.name ∈ requiredItems (validator table) ∧
          propertyType (validator table) column.name = .text (typeName column.type)) ∨
        (Value.text column.name ∉ requiredItems (validator table) ∧
          propertyType (validator table) column.name =
            .list [.text (typeName column.type), .text "null"]) := by
  refine ⟨quoted table.key.db, quoted table.key.table, Text.joined "\n" (optionLines table), rfl,
    read_quoted _, read_quoted _, read_of_writes (writes_options table), ?_, ?_⟩
  · rw [get_properties]
    simp [propertiesValue, properties, Value.entries, Entries.named]
  · intro column member
    rw [mem_requiredItems_iff member, propertyType_validator member, typeValue]
    cases column.required <;> simp

/-- A name or description of two code points that are the halves of a pair is written as the name of
one character, and read back as that one. -/
theorem halves_read_as_character :
    quotedPoints [0xD83D, 0xDE00] = quoted "😀" ∧
      Json.read (quotedPoints [0xD83D, 0xDE00]) = .ok (.text "😀") ∧
      "😀".toList.map Char.toNat ≠ [0xD83D, 0xDE00] := by
  have fused : fuse [0xD83D, 0xDE00] = "😀".toList.map Char.toNat := by decide
  have written : quotedPoints [0xD83D, 0xDE00] = quoted "😀" := by
    rw [← quotedPoints_fuse, fused, quotedPoints_toList]
  exact ⟨written, written ▸ read_quoted _, by decide⟩

end SchemaAtlas.Dialect.MongoDB
