import SchemaAtlas.Report.Basic
import SchemaAtlas.Schema.Graph
import SchemaAtlas.Transform.Contract

/-! # Referential findings

Every reference of a schema graph is checked: sources, target tables and columns, transforms, the
coverage of columns that need a value, sources that nothing uses, and tables declared again. The
findings about one mapping depend on that mapping and the declarations only.
-/

namespace SchemaAtlas

open Schema Document

/-- One thing that a schema graph gets wrong or leaves doubtful. -/
inductive Finding where
  | unknownSource (index : Nat) (source : String)
  | missingOrigin (index : Nat) (target : Value)
  | badTransform (index : Nat) (target : Value) (problem : Transform.Problem)
  | badTarget (index : Nat) (target : Value)
  | unknownTable (index : Nat) (key : TableKey)
  | noColumnNamed (index : Nat) (target : Value)
  | unknownColumn (index : Nat) (key : TableKey) (column : String)
  | wildcardWithoutFields (index : Nat) (target : Value)
  | unmappedColumn (key : TableKey) (column : String)
  | unusedSource (source : String)
  | redeclaredTable (key : TableKey)

/-- How a mapping is called in findings. -/
def mappingLabel (index : Nat) : String := "Mapping[" ++ toString index ++ "]"

/-- The wording of a finding. -/
def Finding.message : Finding → String
  | .unknownSource index source =>
      mappingLabel index ++ " references unknown source_id '" ++ source ++ "'"
  | .missingOrigin index target =>
      mappingLabel index ++ " (" ++ target.display ++
        ") must declare 'from.source_id', 'from.rule' or 'from.fields'"
  | .badTransform index target problem =>
      mappingLabel index ++ " (" ++ target.display ++ ") has invalid transform: " ++
        problem.message
  | .badTarget index target =>
      mappingLabel index ++ " target " ++ target.literal ++
        " is not a valid db.schema.table[.column] reference"
  | .unknownTable index key =>
      mappingLabel index ++ " target table '" ++ key.dotted ++
        "' does not resolve to a declared table"
  | .noColumnNamed index target =>
      mappingLabel index ++ " target " ++ target.literal ++ " does not name any column"
  | .unknownColumn index key column =>
      mappingLabel index ++ " target column '" ++ key.dottedColumn column ++ "' does not exist"
  | .wildcardWithoutFields index target =>
      mappingLabel index ++ " uses wildcard target '" ++ target.display ++
        "' without explicit 'fields'; no columns are considered mapped"
  | .unmappedColumn key column =>
      "Column '" ++ key.dottedColumn column ++
        "' is NOT NULL without a default and has no mapping"
  | .unusedSource source =>
      "Source '" ++ source ++ "' is declared but not referenced by any mapping"
  | .redeclaredTable key =>
      "Table '" ++ key.dotted ++ "' is declared more than once; the last declaration wins"

/-- The values that the wording of a finding shows: the target as it was written, where it tells
it. -/
def Finding.shown : Finding → List Value
  | .missingOrigin _ target => [target]
  | .badTransform _ target _ => [target]
  | .badTarget _ target => [target]
  | .noColumnNamed _ target => [target]
  | .wildcardWithoutFields _ target => [target]
  | _ => []

/-- Whether a character divides the names in a composite column. -/
def isTokenDivider (c : Char) : Bool := c == ',' || c == ';' || Text.isBlank c

/-- The names in a composite column, which commas, semicolons and blanks divide. -/
def columnTokens (cs : List Char) : List (List Char) :=
  (cs.splitBy fun a b => isTokenDivider a == isTokenDivider b).filter fun run =>
    run.any fun c => !isTokenDivider c

/-- The names in a composite column. -/
def columnNames (column : String) : List String := (columnTokens column.toList).map String.ofList

namespace Schema.Mapping

/-- The columns that a mapping names: its fields for a whole table, else those of its target. -/
def namedColumns (mapping : Mapping) (path : TargetPath) : List String :=
  if path.isWildcard then mapping.origin.fields.map (·.1) else columnNames path.column

/-- Whether a mapping gives a column of a table its content. -/
def covers (mapping : Mapping) (key : TableKey) (column : String) : Bool :=
  match mapping.target with
  | .path path => path.key == key && (mapping.namedColumns path).contains column
  | .unresolved _ => false

/-- What is wrong with the origin of a mapping. -/
def originErrors (graph : Graph) (mapping : Mapping) : List Finding :=
  let origin := mapping.origin
  (match given? origin.sourceId with
    | some source =>
        if (graph.source? source).isSome then [] else [.unknownSource mapping.index source]
    | none => []) ++
  (if origin.kind = .unknown then [.missingOrigin mapping.index mapping.rawTarget] else []) ++
  (match (given? origin.transform).bind fun text => Transform.problem? (.text text) with
    | some problem => [.badTransform mapping.index mapping.rawTarget problem]
    | none => [])

/-- What is wrong with the columns that a mapping names, in a declared table. -/
def columnErrors (mapping : Mapping) (path : TargetPath) (table : Table) : List Finding :=
  (if !path.isWildcard && (columnNames path.column).isEmpty then
    [.noColumnNamed mapping.index mapping.rawTarget] else []) ++
  ((mapping.namedColumns path).filter fun column => !table.hasColumn column).map
    (.unknownColumn mapping.index path.key)

/-- What is wrong with the target of a mapping. -/
def targetErrors (graph : Graph) (mapping : Mapping) : List Finding :=
  match mapping.target with
  | .unresolved raw => [.badTarget mapping.index raw]
  | .path path =>
      match graph.table? path.key with
      | none => [.unknownTable mapping.index path.key]
      | some table => mapping.columnErrors path table

/-- Everything that is wrong with a mapping. -/
def errors (graph : Graph) (mapping : Mapping) : List Finding :=
  mapping.originErrors graph ++ mapping.targetErrors graph

/-- What is doubtful about a mapping. -/
def warnings (mapping : Mapping) : List Finding :=
  match mapping.target with
  | .path path =>
      if path.isWildcard && mapping.origin.fields.isEmpty then
        [.wildcardWithoutFields mapping.index mapping.rawTarget] else []
  | .unresolved _ => []

end Schema.Mapping

namespace Schema.Graph

/-- The columns that need a value and get none: not nullable, no key, no default, no mapping. -/
def uncovered (graph : Graph) : List Finding :=
  (graph.columns.filter fun (table, column) =>
    column.notNull && !column.pk && column.default.isNone &&
      !graph.mappings.any fun mapping => mapping.covers table.key column.name).map
    fun (table, column) => .unmappedColumn table.key column.name

/-- The declared sources that no mapping names. -/
def unused (graph : Graph) : List Finding :=
  (graph.sources.filter fun source =>
    !graph.mappings.any fun mapping => given? mapping.origin.sourceId == some source.id).map
    fun source => .unusedSource source.id

/-- The tables declared more than once, each reported once. -/
def redeclarations (graph : Graph) : List Finding :=
  (Keyed.distinct graph.redeclared).map .redeclaredTable

/-- The errors of a schema graph; redeclared tables count when the check is strict. -/
def errors (graph : Graph) (strict : Bool) : List Finding :=
  graph.mappings.flatMap (·.errors graph) ++ graph.uncovered ++
    if strict then graph.redeclarations else []

/-- The warnings of a schema graph; redeclared tables count unless the check is strict. -/
def warnings (graph : Graph) (strict : Bool) : List Finding :=
  graph.mappings.flatMap (·.warnings) ++ graph.unused ++
    if strict then [] else graph.redeclarations

/-- The report on every reference of a schema graph. -/
def report (graph : Graph) (strict : Bool) : Report where
  errors := (graph.errors strict).map Finding.message
  warnings := (graph.warnings strict).map Finding.message

/-- The report on every reference of a schema graph, unless a target that it tells is too long. -/
def report? (graph : Graph) (strict : Bool) : Except TooLong Report :=
  showing ((graph.errors strict ++ graph.warnings strict).flatMap Finding.shown)
    (graph.report strict)

end Schema.Graph

end SchemaAtlas
