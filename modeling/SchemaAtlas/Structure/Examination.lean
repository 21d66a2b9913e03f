import SchemaAtlas.Document.Writable
import SchemaAtlas.Structure.Defeat
import SchemaAtlas.Structure.Outline

/-! # The structure of a document

What a document must look like before it is read: its sections, tables, columns, sources and
mappings, each with the fields they may have. Beyond that, every table has columns with different
names, and a document without target groups or tables is doubtful.
-/

namespace SchemaAtlas.Structure

open Document

/-- The rule for a column. -/
def columnRule : Rule :=
  .record [("default", false, .nullable [.string, .number, .boolean]),
    ("description", false, .nullable [.string]), ("fk", false, .nullable [.string, .dict]),
    ("name", true, .name), ("not_null", false, .of [.boolean]), ("nullable", false, .of [.boolean]),
    ("pk", false, .of [.boolean]), ("type", false, .nullable [.string]),
    ("unique", false, .of [.boolean])]

/-- The rule for a table. -/
def tableRule : Rule :=
  .record [("columns", true, .listOf columnRule), ("description", false, .nullable [.string]),
    ("foreign_keys", false, .listOf (.record [])), ("name", true, .name),
    ("owner", false, .nullable [.string]), ("primary_key", false, .listOf (.of [.string]))]

/-- The rule for a target group. -/
def targetRule : Rule :=
  .record [("db", true, .name), ("engine", false, .nullable [.string]),
    ("schema", false, .nullable [.string]), ("tables", true, .listOf tableRule)]

/-- The rule for a source. -/
def sourceRule : Rule :=
  .record [("description", false, .nullable [.string]), ("id", true, .name),
    ("kind", true, .of [.string])]

/-- The rule for a mapping. -/
def mappingRule : Rule :=
  .record [("from", false, .nullable [.dict]), ("notes", false, .nullable [.string]),
    ("tags", false, .listOf (.of [.string])), ("target", true, .name)]

/-- The rule for a document. -/
def documentRule : Rule :=
  .record [("description", false, .nullable [.string]), ("mappings", false, .listOf mappingRule),
    ("owners", false, .nullable [.list]), ("project", false, .nullable [.string, .dict]),
    ("sources", false, .listOf sourceRule), ("targets", true, .listOf targetRule),
    ("version", false, .nullable [.string, .number])]

/-- Why a document cannot be examined. -/
inductive Refusal where
  | notDictionary
  | defeated
  | unhashableName
  | tooLong
  deriving DecidableEq, Repr

/-- The outcome of an examination. -/
structure Verdict where
  valid : Bool
  errors : List String
  warnings : List String
  deriving DecidableEq, Repr

/-- The position of an item behind the name of its list. -/
def itemPath (list : String) (position : Nat) : String := list ++ "[" ++ toString position ++ "]"

/-- The name of a column, null when it has none. -/
def columnName (column : Value) : Value := Entries.get column.entries "name"

/-- The columns that repeat the name of an earlier one, which is shown. -/
def repeatedNames (path : String) (position : Nat) (seen : List Key) :
    List Value → Except Refusal (List String)
  | [] => .ok []
  | column :: columns =>
      match columnName column with
      | .null => repeatedNames path (position + 1) seen columns
      | .scalar name => do
          if seen.contains name.key && !name.isWritable then throw .tooLong
          let rest ← repeatedNames path (position + 1) (name.key :: seen) columns
          return if seen.contains name.key then
            (itemPath (path ++ ".columns") position ++ ": duplicate column name '" ++
              name.display ++ "'") :: rest
          else rest
      | _ => .error .unhashableName

/-- What is wrong with the columns of a table, apart from their structure. -/
def columnErrors (path : String) (columns : Value) : Except Refusal (List String) :=
  match columns with
  | .list [] => .ok [path ++ ": table must have at least one column"]
  | .list items => repeatedNames path 0 [] items
  | _ => .ok []

/-- What is wrong with the tables of a target group, apart from their structure. -/
def tableErrors (path : String) (position : Nat) : List Value → Except Refusal (List String)
  | [] => .ok []
  | table :: tables => do
      let here ← match table with
        | .dict entries =>
            columnErrors (itemPath (path ++ ".tables") position) (Entries.get entries "columns")
        | _ => pure []
      return here ++ (← tableErrors path (position + 1) tables)

/-- What is wrong with target groups, apart from their structure. -/
def groupErrors (position : Nat) : List Value → Except Refusal (List String)
  | [] => .ok []
  | group :: groups => do
      let here ← match Entries.get group.entries "tables" with
        | .list tables => tableErrors (itemPath "targets" position) 0 tables
        | _ => pure []
      return here ++ (← groupErrors (position + 1) groups)

/-- The target groups that have an empty list of tables. -/
def emptyGroups (position : Nat) : List Value → List String
  | [] => []
  | group :: groups =>
      (match Entries.get group.entries "tables" with
        | .list [] => [itemPath "targets" position ++ ": target group has no tables"]
        | _ => []) ++ emptyGroups (position + 1) groups

/-- What is doubtful about target groups. -/
def groupWarnings : List Value → List String
  | [] => ["targets: document declares no target groups"]
  | groups => emptyGroups 0 groups

/-- Examine a document. -/
def examine (document : Value) : Except Refusal Verdict :=
  match document with
  | .dict entries => do
      if documentRule.defeatedBy document then throw .defeated
      let found := documentRule.check document
      let groups := match Entries.get entries "targets" with
        | .list groups => some groups
        | _ => none
      let own ← groups.elim (pure []) (groupErrors 0)
      return ⟨found.isEmpty && own.isEmpty, (Outline.ofFindings found).lines "" ++ own,
        groups.elim [] groupWarnings⟩
  | _ => .error .notDictionary

end SchemaAtlas.Structure
