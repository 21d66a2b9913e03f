import SchemaAtlas.Dialect.MySQL
import SchemaAtlas.Dialect.Postgres
import SchemaAtlas.Dialect.Snowflake

/-! # Primary keys in scripts

A statement that creates a table is a list of definitions, and declares primary keys in its own
words: behind a column, or in a clause over several columns. MySQL and Snowflake write one clause
over the whole key. PostgreSQL writes the words behind each column of the key, and so declares as
many keys as there are columns in it: for a key of several columns none of them is the key of the
table. The words are not counted where a type or a default of a column brings them along, and no
dialect puts them there of its own.
-/

namespace SchemaAtlas.Dialect

open Schema

/-- A constraint behind a column. -/
inductive Constraint where
  | primaryKey
  | unique
  | notNull
  | default (text : String)
  | references (text : String)

namespace Constraint

def text : Constraint → String
  | .primaryKey => "PRIMARY KEY"
  | .unique => "UNIQUE"
  | .notNull => "NOT NULL"
  | .default text => "DEFAULT " ++ text
  | .references text => "REFERENCES " ++ text

/-- The primary keys that a constraint declares behind a column. -/
def keys (column : String) : Constraint → List (List String)
  | .primaryKey => [[column]]
  | _ => []

/-- What a constraint says in words of a column. -/
def words : Constraint → List String
  | .default text => [text]
  | _ => []

/-- A constraint that is only written when it holds. -/
def onlyIf (constraint : Constraint) (holds : Bool) : List Constraint :=
  if holds then [constraint] else []

theorem text_onlyIf (constraint : Constraint) (holds : Bool) :
    (constraint.onlyIf holds).map text = if holds then [constraint.text] else [] := by
  cases holds <;> rfl

theorem keys_onlyIf (column : String) (constraint : Constraint) (holds : Bool) :
    (constraint.onlyIf holds).flatMap (keys column) =
      if holds then constraint.keys column else [] := by
  cases holds <;> simp [onlyIf]

theorem words_onlyIf (constraint : Constraint) (holds : Bool) :
    (constraint.onlyIf holds).flatMap words = if holds then constraint.words else [] := by
  cases holds <;> simp [onlyIf]

end Constraint

/-- One definition between the parentheses of a statement. -/
inductive Definition where
  | column (name type : String) (constraints : List Constraint)
  | primaryKey (names : List String)
  | foreignKey (name reference : String)

namespace Definition

def text : Definition → String
  | .column name type constraints =>
      Text.joined " " (["  " ++ name, type] ++ constraints.map Constraint.text)
  | .primaryKey names => "  PRIMARY KEY (" ++ Text.joined ", " names ++ ")"
  | .foreignKey name reference => "  FOREIGN KEY (" ++ name ++ ") REFERENCES " ++ reference

theorem text_foreignKey (name reference : String) :
    (foreignKey name reference).text =
      "  FOREIGN KEY (" ++ name ++ ") REFERENCES " ++ reference := rfl

/-- The primary keys that a definition declares, each with its columns. -/
def keys : Definition → List (List String)
  | .column name _ constraints => constraints.flatMap (Constraint.keys name)
  | .primaryKey names => [names]
  | .foreignKey _ _ => []

/-- The types and defaults in a definition. -/
def words : Definition → List String
  | .column _ type constraints => type :: constraints.flatMap Constraint.words
  | _ => []

end Definition

/-- A statement that creates a table, in its parts. -/
structure Statement where
  opening : String
  definitions : List Definition
  closing : String

namespace Statement

def text (statement : Statement) : String :=
  statement.opening ++ body (statement.definitions.map Definition.text) ++ statement.closing

/-- The primary keys that a statement declares. -/
def keys (statement : Statement) : List (List String) :=
  statement.definitions.flatMap Definition.keys

end Statement

/-- A text without the words that declare a key. -/
def Quiet (text : String) : Prop := Text.mentions text "PRIMARY KEY" = false

instance (text : String) : Decidable (Quiet text) :=
  inferInstanceAs (Decidable (Text.mentions text "PRIMARY KEY" = false))

/-- A text that comes with a column, or that declares no key. -/
inductive Brings (column : Column) (text : String) : Prop where
  | quiet (quiet : Quiet text)
  | type (same : text = column.type)
  | trimmed (same : text = Text.trimmed column.type)
  | default (held : column.default = some text)

/-- A statement is written as a text and declares some primary keys; the types and defaults in it
come with the columns, or declare no key. -/
structure Declares (table : Table) (statement : Statement) (written : String)
    (keys : List (List String)) : Prop where
  text : statement.text = written
  keys : statement.keys = keys
  words : ∀ definition ∈ statement.definitions, ∀ text ∈ definition.words,
    ∃ column ∈ table.columns, Brings column text

/-- A type goes by another name, or is written as it is declared. -/
theorem brings_typeName (column : Column) {names : List (String × String)}
    (quiet : ∀ entry ∈ names, Quiet entry.2) (sought : String) :
    Brings column ((names.lookup sought).getD (Text.trimmed column.type)) := by
  cases found : names.lookup sought with
  | none => exact .trimmed rfl
  | some name =>
    obtain ⟨before, behind, whole, _⟩ := List.lookup_eq_some_iff.mp found
    have member : (sought, name) ∈ names := whole ▸ List.mem_append_right _ (List.mem_cons_self ..)
    exact .quiet (quiet _ member)

/-- A default is one of two calls that go by other names, or is written as it is declared. -/
theorem brings_default {column : Column} {declared time identifier : String}
    (held : column.default = some declared) (quiet : Quiet time) (quiet' : Quiet identifier)
    (isTime isIdentifier : Bool) :
    Brings column (if isTime then time else if isIdentifier then identifier else declared) := by
  cases isTime with
  | true => exact .quiet quiet
  | false =>
    cases isIdentifier with
    | true => exact .quiet quiet'
    | false => exact .default held

section KeyBehindColumns

variable (table : Table) (column : Column)

/-- A column in a statement that declares the key elsewhere. -/
def unkeyedColumn (type : String) (default? : Option String) : Definition :=
  .column column.name type (Constraint.unique.onlyIf column.unique ++
    Constraint.notNull.onlyIf column.required ++ default?.elim [] fun text => [.default text])

theorem text_unkeyedColumn (type : String) (default? : Option String) :
    (unkeyedColumn column type default?).text =
      Text.joined " " (["  " ++ column.name, type] ++
        (if column.unique then ["UNIQUE"] else []) ++
        (if column.required then ["NOT NULL"] else []) ++
        default?.elim [] fun text => ["DEFAULT " ++ text]) := by
  unfold unkeyedColumn Definition.text
  simp only [List.map_append, Constraint.text_onlyIf, List.append_assoc]
  cases default? <;> rfl

theorem keys_unkeyedColumn (type : String) (default? : Option String) :
    (unkeyedColumn column type default?).keys = [] := by
  unfold unkeyedColumn Definition.keys
  simp only [List.flatMap_append, Constraint.keys_onlyIf, Constraint.keys, ite_self]
  cases default? <;> rfl

theorem words_unkeyedColumn (type : String) (default? : Option String) :
    (unkeyedColumn column type default?).words = type :: default?.toList := by
  unfold unkeyedColumn Definition.words
  simp only [List.flatMap_append, Constraint.words_onlyIf, Constraint.words, ite_self]
  cases default? <;> rfl

/-- The reference of a column as a clause of its own. -/
def foreignKey? (reference : ForeignKey → String) : Option Definition :=
  column.fk.map fun fk => .foreignKey column.name (reference fk)

/-- The key of a table as a clause of its own, if there is one. -/
def keyClause : List Definition :=
  if table.primaryKey.isEmpty then [] else [.primaryKey table.primaryKey]

theorem text_keyClause : (keyClause table).map Definition.text = primaryKeyClause table := by
  unfold keyClause primaryKeyClause
  split <;> rfl

/-- Columns, then the key, then references. -/
def keyBehindColumns (type : Column → String) (default? : Column → Option String)
    (reference : Column → ForeignKey → String) : List Definition :=
  table.columns.map (fun column => unkeyedColumn column (type column) (default? column)) ++
    keyClause table ++ table.columns.filterMap fun column => foreignKey? column (reference column)

variable {table}

theorem text_keyBehindColumns {type : Column → String} {default? : Column → Option String}
    {reference : Column → ForeignKey → String} {columnText : Column → String}
    {referenceText? : Column → Option String}
    (columns : ∀ column, (unkeyedColumn column (type column) (default? column)).text =
      columnText column)
    (references : ∀ column, (foreignKey? column (reference column)).map Definition.text =
      referenceText? column) :
    (keyBehindColumns table type default? reference).map Definition.text =
      table.columns.map columnText ++ primaryKeyClause table ++
        table.columns.filterMap referenceText? := by
  rw [keyBehindColumns, List.map_append, List.map_append, text_keyClause, List.map_map,
    List.map_filterMap]
  simp only [Function.comp_def, columns, references]

/-- The key behind the columns is the only one that is declared. -/
theorem keys_keyBehindColumns (keyed : table.primaryKey ≠ []) (type : Column → String)
    (default? : Column → Option String) (reference : Column → ForeignKey → String) :
    (keyBehindColumns table type default? reference).flatMap Definition.keys =
      [table.primaryKey] := by
  have columns : (table.columns.map fun column =>
      unkeyedColumn column (type column) (default? column)).flatMap Definition.keys = [] := by
    rw [List.flatMap_map, List.flatMap_eq_nil_iff]
    exact fun column _ => keys_unkeyedColumn column _ _
  have references : (table.columns.filterMap fun column =>
      foreignKey? column (reference column)).flatMap Definition.keys = [] := by
    rw [List.flatMap_eq_nil_iff]
    intro definition member
    obtain ⟨column, _, held⟩ := List.mem_filterMap.mp member
    obtain ⟨fk, _, rfl⟩ := Option.map_eq_some_iff.mp held
    rfl
  have nonempty : table.primaryKey.isEmpty = false := by simpa using keyed
  rw [keyBehindColumns, List.flatMap_append, List.flatMap_append, columns, references, keyClause,
    nonempty]
  rfl

/-- Besides the key, only what the columns say is written. -/
theorem words_keyBehindColumns {type : Column → String} {default? : Column → Option String}
    (types : ∀ column, Brings column (type column))
    (defaults : ∀ column, ∀ text ∈ default? column, Brings column text)
    (reference : Column → ForeignKey → String) :
    ∀ definition ∈ keyBehindColumns table type default? reference, ∀ text ∈ definition.words,
      ∃ column ∈ table.columns, Brings column text := by
  intro definition member text written
  unfold keyBehindColumns at member
  simp only [List.mem_append] at member
  rcases member with (column | key) | reference
  · obtain ⟨own, here, rfl⟩ := List.mem_map.mp column
    refine ⟨own, here, ?_⟩
    rw [words_unkeyedColumn, List.mem_cons, Option.mem_toList] at written
    rcases written with rfl | default
    · exact types own
    · exact defaults own text default
  · unfold keyClause at key
    split at key
    · cases key
    · obtain rfl := List.mem_singleton.mp key
      cases written
  · obtain ⟨own, _, held⟩ := List.mem_filterMap.mp reference
    obtain ⟨fk, _, rfl⟩ := Option.map_eq_some_iff.mp held
    cases written

end KeyBehindColumns

namespace MySQL

variable (table : Table) (column : Column)

/-- Whether a column counts by itself. -/
def counts : Bool :=
  Text.contains "AUTO_INCREMENT".toList (Text.upper (typeName column.type).toList)

/-- A column that counts by itself takes no default. -/
def default? : Option String := if counts column then none else column.default.map defaultText

/-- The reference of a column, which always names a column. -/
def columnReference (fk : ForeignKey) : String :=
  reference table.key fk.table ++ "(" ++ fk.column?.getD column.name ++ ")"

/-- The statement that creates a table. -/
def statement : Statement where
  opening := "CREATE TABLE IF NOT EXISTS " ++ tableName table.key
  definitions := keyBehindColumns table (fun column => typeName column.type) default?
    (columnReference table)
  closing := " ENGINE=InnoDB;"

theorem text_column :
    (unkeyedColumn column (typeName column.type) (default? column)).text =
      columnDefinition column := by
  -- the definition asks whether the column counts behind the default, `default?` before it
  have default : ((default? column).elim [] fun text => ["DEFAULT " ++ text]) =
      column.default.elim [] fun text =>
        if counts column then [] else ["DEFAULT " ++ defaultText text] := by
    unfold default?
    cases counts column <;> cases column.default <;> rfl
  rw [text_unkeyedColumn, default]
  rfl

theorem text_foreignKey :
    (foreignKey? column (columnReference table column)).map Definition.text =
      foreignKeyClause? table column := by
  unfold foreignKey? foreignKeyClause?
  cases column.fk with
  | none => rfl
  | some fk =>
    simp only [Option.map_some, Definition.text_foreignKey, columnReference, String.append_assoc]

theorem text_statement : (statement table).text = createTable table := by
  unfold Statement.text statement createTable
  rw [text_keyBehindColumns text_column (text_foreignKey table)]

theorem quiet_typeNames : ∀ entry ∈ typeNames, Quiet entry.2 := by decide

theorem brings_type : Brings column (typeName column.type) := by
  unfold typeName
  dsimp only
  split
  · exact .quiet (by decide)
  · exact brings_typeName column quiet_typeNames _

theorem brings_default? {text : String} (written : text ∈ default? column) :
    Brings column text := by
  unfold default? at written
  split at written
  · cases written
  · obtain ⟨declared, held, rfl⟩ := Option.map_eq_some_iff.mp written
    unfold defaultText
    exact brings_default held (by decide) (by decide) _ _

theorem declares_primaryKey {table : Table} (keyed : table.primaryKey ≠ []) :
    Declares table (statement table) (createTable table) [table.primaryKey] :=
  ⟨text_statement table, keys_keyBehindColumns keyed _ _ _,
    words_keyBehindColumns brings_type (fun column _ => brings_default? column) _⟩

end MySQL

namespace Snowflake

variable (table : Table) (column : Column)

/-- The reference of a column. -/
def columnReference (fk : ForeignKey) : String :=
  referenceWithColumn (reference table.key fk.table) fk

/-- The statement that creates a table. -/
def statement : Statement where
  opening := "CREATE OR REPLACE TABLE " ++ table.key.qualified
  definitions := keyBehindColumns table (fun column => typeName column.type)
    (fun column => column.default.map defaultText) fun _ => columnReference table
  closing := ";"

theorem text_column :
    (unkeyedColumn column (typeName column.type) (column.default.map defaultText)).text =
      columnDefinition column := by
  rw [text_unkeyedColumn, columnDefinition]
  cases column.default <;> rfl

theorem text_foreignKey :
    (foreignKey? column (columnReference table)).map Definition.text =
      foreignKeyClause? table column := by
  unfold foreignKey? foreignKeyClause?
  cases column.fk <;> rfl

theorem text_statement : (statement table).text = createTable table := by
  unfold Statement.text statement createTable
  rw [text_keyBehindColumns text_column (text_foreignKey table)]

theorem quiet_typeNames : ∀ entry ∈ typeNames, Quiet entry.2 := by decide

theorem brings_type : Brings column (typeName column.type) := by
  unfold typeName
  dsimp only
  split
  · exact .quiet (by decide)
  · exact brings_typeName column quiet_typeNames _

theorem brings_default? {text : String} (written : text ∈ column.default.map defaultText) :
    Brings column text := by
  obtain ⟨declared, held, rfl⟩ := Option.map_eq_some_iff.mp written
  unfold defaultText
  exact brings_default held (by decide) (by decide) _ _

theorem declares_primaryKey {table : Table} (keyed : table.primaryKey ≠ []) :
    Declares table (statement table) (createTable table) [table.primaryKey] :=
  ⟨text_statement table, keys_keyBehindColumns keyed _ _ _,
    words_keyBehindColumns brings_type (fun column _ => brings_default? column) _⟩

end Snowflake

namespace Postgres

variable (table : Table) (column : Column)

/-- A column with all its constraints. -/
def keyedColumn : Definition :=
  .column column.name (if column.type = "" then "VARCHAR" else column.type)
    (Constraint.primaryKey.onlyIf column.pk ++ Constraint.unique.onlyIf column.unique ++
      Constraint.notNull.onlyIf column.notNull ++
      (column.default.elim [] fun text => [.default text]) ++
      column.fk.elim [] fun fk =>
        [.references (referenceWithColumn (reference table.key fk.table) fk)])

/-- The statement that creates a table. -/
def statement : Statement where
  opening := "CREATE TABLE IF NOT EXISTS " ++ table.key.qualified
  definitions := table.columns.map (keyedColumn table)
  closing := ";"

theorem text_column : (keyedColumn table column).text = columnDefinition table column := by
  unfold keyedColumn Definition.text columnDefinition constraints
  simp only [List.map_append, Constraint.text_onlyIf]
  cases column.default <;> cases column.fk <;> rfl

theorem keys_column :
    (keyedColumn table column).keys = if column.pk then [[column.name]] else [] := by
  unfold keyedColumn Definition.keys
  simp only [List.flatMap_append, Constraint.keys_onlyIf, Constraint.keys, ite_self]
  cases column.default <;> cases column.fk <;> simp [Constraint.keys]

/-- Every column of the key is declared a key of its own. -/
theorem keys_statement : (statement table).keys = table.primaryKey.map fun name => [name] := by
  unfold Statement.keys statement Table.primaryKey
  dsimp only
  rw [List.flatMap_map, List.map_map]
  -- column by column: each that is marked adds a key where the table adds a name to its own
  induction table.columns with
  | nil => rfl
  | cons column columns ih =>
    rw [List.flatMap_cons, ih, keys_column, List.filter_cons]
    cases column.pk <;> rfl

theorem words_column {text : String} (written : text ∈ (keyedColumn table column).words) :
    Brings column text := by
  have words : (keyedColumn table column).words =
      (if column.type = "" then "VARCHAR" else column.type) :: column.default.toList := by
    unfold keyedColumn Definition.words
    simp only [List.flatMap_append, Constraint.words_onlyIf, Constraint.words, ite_self]
    cases column.default <;> cases column.fk <;> rfl
  rw [words, List.mem_cons, Option.mem_toList] at written
  rcases written with rfl | held
  · split
    · exact .quiet (by decide)
    · exact .type rfl
  · exact .default held

theorem declares_columns : Declares table (statement table) (createTable table)
    (table.primaryKey.map fun name => [name]) := by
  refine ⟨?_, keys_statement table, fun definition member text written => ?_⟩
  · unfold Statement.text statement createTable
    simp only [List.map_map, Function.comp_def, text_column]
  · obtain ⟨column, here, rfl⟩ := List.mem_map.mp member
    exact ⟨column, here, words_column table column written⟩

end Postgres

theorem map_singleton_eq_singleton_iff {names : List String} :
    (names.map fun name => [name]) = [names] ↔ names.length = 1 := by
  constructor
  · intro same
    simpa using congrArg List.length same
  · intro single
    obtain ⟨name, rfl⟩ := List.length_eq_one_iff.mp single
    rfl

/-- MySQL and Snowflake declare the primary key of a table, and no other; PostgreSQL declares each
column of it a key, which is the key of the table when it is a single column. -/
theorem primary_key_declarations {table : Table} (keyed : table.primaryKey ≠ []) :
    Declares table (MySQL.statement table) (MySQL.createTable table) [table.primaryKey] ∧
      Declares table (Snowflake.statement table) (Snowflake.createTable table) [table.primaryKey] ∧
      Declares table (Postgres.statement table) (Postgres.createTable table)
        (table.primaryKey.map fun name => [name]) ∧
      ((Postgres.statement table).keys = [table.primaryKey] ↔ table.primaryKey.length = 1) := by
  refine ⟨MySQL.declares_primaryKey keyed, Snowflake.declares_primaryKey keyed,
    Postgres.declares_columns table, ?_⟩
  rw [Postgres.keys_statement]
  exact map_singleton_eq_singleton_iff

/-- A table with a key of two columns, one of which refers to another table, and a column whose
default holds the words of a key. -/
def linesTable : Table where
  key := ⟨"shop", "public", "lines"⟩
  columns := [
    ⟨"book", "INT", true, some ⟨"books", .text "id"⟩, false, false, none, none⟩,
    ⟨"position", "INT", true, none, false, false, none, none⟩,
    ⟨"note", "TEXT", false, none, true, false, some "'PRIMARY KEY'", none⟩]
  description := none
  owner := none

theorem primary_key_of_linesTable :
    linesTable.primaryKey ≠ [] ∧
      Declares linesTable (MySQL.statement linesTable) (MySQL.createTable linesTable)
        [["book", "position"]] ∧
      Declares linesTable (Snowflake.statement linesTable) (Snowflake.createTable linesTable)
        [["book", "position"]] ∧
      Declares linesTable (Postgres.statement linesTable) (Postgres.createTable linesTable)
        [["book"], ["position"]] :=
  have keyed : linesTable.primaryKey ≠ [] := by decide
  have declared := primary_key_declarations keyed
  ⟨keyed, declared.1, declared.2.1, declared.2.2.1⟩

/-- PostgreSQL declares two keys for a key of two columns, where MySQL declares one. -/
theorem composite_key_split :
    linesTable.primaryKey = ["book", "position"] ∧
      Postgres.createTable linesTable =
        "CREATE TABLE IF NOT EXISTS shop.public.lines (\n" ++
          "  book INT PRIMARY KEY REFERENCES shop.public.books(id),\n" ++
          "  position INT PRIMARY KEY,\n  note TEXT UNIQUE DEFAULT 'PRIMARY KEY'\n);" ∧
      (Postgres.statement linesTable).keys = [["book"], ["position"]] ∧
      MySQL.createTable linesTable =
        "CREATE TABLE IF NOT EXISTS shop.lines (\n  book INT NOT NULL,\n" ++
          "  position INT NOT NULL,\n  note TEXT UNIQUE DEFAULT 'PRIMARY KEY',\n" ++
          "  PRIMARY KEY (book, position),\n" ++
          "  FOREIGN KEY (book) REFERENCES shop.books(id)\n) ENGINE=InnoDB;" := by
  decide +kernel

end SchemaAtlas.Dialect
