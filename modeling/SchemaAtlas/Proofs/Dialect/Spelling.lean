import SchemaAtlas.Dialect.MySQL
import SchemaAtlas.Proofs.Dialect.Reference
import SchemaAtlas.Proofs.Text.Blank
import SchemaAtlas.Proofs.Text.Split

/-! # Spellings of a reference

A foreign key names its table in full, without the database where both tables share it, or bare
where they share the schema as well, and a column behind the last point. However it is spelled, it
means the same table: a diagram finds that table, and a script completes the spelling to the name
under which the table is created.
-/

namespace SchemaAtlas.Schema

open Document

/-- A name that can be a part of a dotted path: it is not empty, holds no point, and has no blank at
its ends. -/
structure PathName (name : String) : Prop where
  nonempty : name ≠ ""
  pointless : '.' ∉ name.toList
  trimmed : Text.trim name.toList = name.toList

/-- A table whose key can be written as a dotted path. -/
structure TableKey.Spellable (key : TableKey) : Prop where
  db : PathName key.db
  schema : PathName key.schema
  table : PathName key.table

theorem TableKey.Spellable.plain {key : TableKey} (spellable : key.Spellable) : key.Plain := by
  simp only [Plain, List.forall_mem_cons]
  exact ⟨⟨spellable.db.nonempty, spellable.db.pointless⟩,
    ⟨spellable.schema.nonempty, spellable.schema.pointless⟩,
    ⟨spellable.table.nonempty, spellable.table.pointless⟩, by simp⟩

/-- How a table is referred to from another: in full, without the database if both share it, and
bare if they share the schema too. -/
inductive Spells (context key : TableKey) : String → Prop where
  | full : Spells context key key.dotted
  | schema (database : key.db = context.db) : Spells context key (key.schema ++ "." ++ key.table)
  | bare (database : key.db = context.db) (schema : key.schema = context.schema) :
      Spells context key key.table

section ForeignKey

theorem splitLastPoint?_append {behind : List Char} (pointless : '.' ∉ behind)
    (before : List Char) : splitLastPoint? (before ++ '.' :: behind) = some (before, behind) := by
  have front : (before ++ '.' :: behind).length - behind.length - 1 = before.length := by
    rw [List.length_append, List.length_cons]
    omega
  rw [splitLastPoint?, Text.takeWhile_reverse_append pointless, if_pos (by simp),
    List.reverse_reverse, front, List.take_left]

/-- A dotted text refers to the column behind its last point. -/
theorem ForeignKey.ofValue?_dotted {table column : String} (written : table ≠ "")
    (trimmed : Text.trim table.toList = table.toList) (named : PathName column) :
    ForeignKey.ofValue? (.text (table ++ "." ++ column)) = some ⟨table, .text column⟩ := by
  have kept : Text.trim (Value.text (table ++ "." ++ column)).display.toList =
      table.toList ++ '.' :: column.toList := by
    change Text.trim (table ++ "." ++ column).toList = _
    rw [String.toList_append, String.toList_append, Text.trim_between trimmed named.trimmed
      (by simpa using written) (by simpa using named.nonempty)]
    simp
  have present : (Value.text (table ++ "." ++ column)).isTruthy = true := by simp [Value.isTruthy]
  have filled : column.toList.isEmpty = false := by simpa using named.nonempty
  unfold ForeignKey.ofValue?
  rw [present, if_neg (by decide)]
  split
  · next same => cases same
  · dsimp only
    rw [kept, splitLastPoint?_append named.pointless]
    simp [filled]

end ForeignKey

section Spellings

variable {context key : TableKey} {spelling : String}

theorem Spells.written (spells : Spells context key spelling) (spellable : key.Spellable) :
    spelling ≠ "" ∧ Text.trim spelling.toList = spelling.toList := by
  have table := spellable.table
  have opens {name : String} (named : PathName name) : name.toList ≠ [] := by
    simpa using named.nonempty
  cases spells with
  | full =>
    refine ⟨by simp [TableKey.dotted], ?_⟩
    have whole := Text.trim_between spellable.db.trimmed table.trimmed (opens spellable.db)
      (opens table) ("." ++ key.schema ++ ".").toList
    simpa [TableKey.dotted] using whole
  | schema database =>
    refine ⟨by simp, ?_⟩
    have whole := Text.trim_between spellable.schema.trimmed table.trimmed
      (opens spellable.schema) (opens table) ['.']
    simpa using whole
  | bare database schema => exact ⟨table.nonempty, table.trimmed⟩

/-- A spelling is cut into the last parts of the key. -/
theorem Spells.pieces (spells : Spells context key spelling) (spellable : key.Spellable) :
    Text.pieces '.' spelling = [key.db, key.schema, key.table] ∧ spelling = key.qualified ∨
      (Text.pieces '.' spelling = [key.schema, key.table] ∧ key.db = context.db) ∨
        Text.pieces '.' spelling = [spelling] ∧ key = context.beside spelling := by
  cases spells with
  | full =>
    have whole : key.dotted = key.qualified := by
      rw [spellable.plain.qualified_eq]
      simp [TableKey.dotted, Text.joined, String.append_assoc]
    exact .inl ⟨whole ▸ spellable.plain.pieces_qualified, whole⟩
  | schema database =>
    have parts := Text.pieces_append spellable.schema.pointless key.table
    rw [Text.pieces_of_not_mem spellable.table.pointless] at parts
    exact .inr (.inl ⟨parts, database⟩)
  | bare database schema =>
    refine .inr (.inr ⟨Text.pieces_of_not_mem spellable.table.pointless, ?_⟩)
    exact TableKey.ext database schema rfl

end Spellings

end SchemaAtlas.Schema

namespace SchemaAtlas.Dialect

open Schema Document

/-- What a reference from a table means: one declared table, which diagrams find, and whose name the
scripts write, with schemas and without. -/
structure Means (graph : Graph) (context key : TableKey) (referred : String) : Prop where
  diagram : graph.resolve? context referred = some key
  script : reference context referred = key.qualified
  mysql : MySQL.reference context referred = MySQL.tableName key

variable {graph : Graph} {context key : TableKey} {spelling : String}

theorem means_of_spells (spells : Spells context key spelling) (spellable : key.Spellable)
    (declared : key ∈ graph.tables.map Table.key) : Means graph context key spelling := by
  rcases spells.pieces spellable with ⟨parts, whole⟩ | ⟨parts, database⟩ | ⟨parts, beside⟩
  · constructor
    · exact Graph.resolve?_of_key declared parts
    · rw [reference_of_long (by simp [parts]), whole]
    · rw [MySQL.reference, parts]
      rfl
  · have same : key = ⟨context.db, key.schema, key.table⟩ := TableKey.ext database rfl rfl
    have plain : TableKey.Plain ⟨context.db, key.schema, key.table⟩ := same ▸ spellable.plain
    constructor
    · exact Graph.resolve?_of_schema declared database parts
    · rw [reference_of_two_parts plain parts, ← same]
    · rw [MySQL.reference, parts, MySQL.tableName, database]
      rfl
  · constructor
    · exact Graph.resolve?_of_name declared beside parts
    · rw [reference_of_bare parts, ← beside]
    · rw [MySQL.reference, parts, MySQL.tableName, beside]
      rfl

/-- Every spelling of a declared table with a column behind it refers to that column, and means that
table in diagrams and in scripts alike. -/
theorem spellings_mean_one_table (graph : Graph) (context : TableKey) {table : Table}
    (declared : table ∈ graph.tables) (spellable : table.key.Spellable) {column : String}
    (named : PathName column) {spelling : String} (spells : Spells context table.key spelling) :
    ForeignKey.ofValue? (.text (spelling ++ "." ++ column)) = some ⟨spelling, .text column⟩ ∧
      ForeignKey.column? ⟨spelling, .text column⟩ = some column ∧
      Means graph context table.key spelling := by
  obtain ⟨written, trimmed⟩ := spells.written spellable
  refine ⟨ForeignKey.ofValue?_dotted written trimmed named, ?_, ?_⟩
  · exact if_pos (by simpa [Value.isTruthy] using named.nonempty)
  · exact means_of_spells spells spellable (List.mem_map_of_mem declared)

/-- Two tables of one name in two schemas. -/
def twinGraph : Graph where
  project := ""
  owners := []
  sources := []
  tables := [⟨⟨"shop", "archive", "users"⟩, [], none, none, List.nodup_nil⟩,
    ⟨⟨"shop", "live", "users"⟩, [], none, none, List.nodup_nil⟩]
  mappings := []
  redeclared := []
  ids_nodup := List.nodup_nil
  keys_nodup := by decide

/-- The later one of the two is meant by all spellings from a table beside it. -/
theorem spellings_in_twinGraph :
    ⟨⟨"shop", "live", "users"⟩, [], none, none, List.nodup_nil⟩ ∈ twinGraph.tables ∧
      TableKey.Spellable ⟨"shop", "live", "users"⟩ ∧ PathName "id" ∧
      ∀ spelling ∈ ["shop.live.users", "live.users", "users"],
        ForeignKey.ofValue? (.text (spelling ++ "." ++ "id")) = some ⟨spelling, .text "id"⟩ ∧
          Means twinGraph ⟨"shop", "live", "orders"⟩ ⟨"shop", "live", "users"⟩ spelling := by
  have declared : ⟨⟨"shop", "live", "users"⟩, [], none, none, List.nodup_nil⟩ ∈ twinGraph.tables :=
    .tail _ (.head _)
  have spellable : TableKey.Spellable ⟨"shop", "live", "users"⟩ :=
    ⟨⟨by decide, by decide, by decide⟩, ⟨by decide, by decide, by decide⟩,
      ⟨by decide, by decide, by decide⟩⟩
  have named : PathName "id" := ⟨by decide, by decide, by decide⟩
  refine ⟨declared, spellable, named, ?_⟩
  simp only [List.forall_mem_cons, List.not_mem_nil, false_implies, implies_true, and_true]
  have means {spelling : String} (spells : Spells ⟨"shop", "live", "orders"⟩ _ spelling) :=
    spellings_mean_one_table twinGraph _ declared spellable named spells
  refine ⟨?_, ?_, ?_⟩
  · exact ⟨(means .full).1, (means .full).2.2⟩
  · exact ⟨(means (.schema rfl)).1, (means (.schema rfl)).2.2⟩
  · exact ⟨(means (.bare rfl rfl)).1, (means (.bare rfl rfl)).2.2⟩

end SchemaAtlas.Dialect
