import SchemaAtlas.Dialect.Basic
import SchemaAtlas.Schema.Declaration
import SchemaAtlas.Proofs.Schema.Reference

/-! # References in diagrams and in scripts

A diagram looks a reference up among the declared tables. A script completes it from the referring
table without looking. Where the diagram finds a table, the two mean the same one unless the diagram
had to look elsewhere: for a bare name that is not declared beside the referring table, and for a
reference of more than three parts, of which the diagram takes the last three.
-/

namespace SchemaAtlas.Dialect

open Schema Document

section Written

variable {context : TableKey} {table schema name : String}

theorem reference_of_bare (bare : Text.pieces '.' table = [table]) :
    reference context table = (context.beside table).qualified := by
  rw [reference, bare]
  rfl

theorem reference_of_two_parts (plain : TableKey.Plain ⟨context.db, schema, name⟩)
    (parts : Text.pieces '.' table = [schema, name]) :
    reference context table = TableKey.qualified ⟨context.db, schema, name⟩ := by
  have whole : Text.joined "." [schema, name] = table := parts ▸ Text.joined_pieces '.' table
  have database : context.db ≠ "" := (plain context.db (by simp)).1
  have nonempty : table ≠ "" := by
    rintro rfl
    simp [Text.pieces, Text.cut] at parts
  rw [plain.qualified_eq, Text.joined_cons_cons, whole, reference, parts]
  exact congrArg (Text.joined ".") (Text.filter_nonempty (by simp [database, nonempty]))

theorem reference_of_long (long : 3 ≤ (Text.pieces '.' table).length) :
    reference context table = table := by
  unfold reference
  split
  · next parts => simp [parts] at long
  · next parts => simp [parts] at long
  · rfl

end Written

/-- Where a diagram finds the table of a reference, a script writes the qualified name of that table
just when the reference has at most three parts and, if it is bare, a table of that name is declared
beside the referring one. -/
theorem reference_eq_qualified_iff (graph : Graph)
    (plain : ∀ table ∈ graph.tables, table.key.Plain) {table : Table}
    (declared : table ∈ graph.tables) {referred : String} {parent : TableKey}
    (resolved : graph.resolve? table.key referred = some parent) :
    reference table.key referred = parent.qualified ↔
      (Text.pieces '.' referred).length ≤ 3 ∧
        ((Text.pieces '.' referred).length = 1 →
          (graph.table? ⟨table.key.db, table.key.schema, referred⟩).isSome) := by
  obtain ⟨known, meaning⟩ := Graph.resolve?_cases resolved
  have plainParent : parent.Plain := by
    obtain ⟨other, member, rfl⟩ := List.mem_map.mp known
    exact plain other member
  rcases meaning with ⟨bare, rfl, nearest⟩ | ⟨parts, database⟩ | ⟨before, parts⟩
  · -- A bare name stands for the table beside the referring one in scripts.
    have beside : (table.key.beside parent.table).Plain := by
      simp only [TableKey.Plain, TableKey.beside, List.forall_mem_cons] at plain plainParent ⊢
      have own := plain table declared
      exact ⟨own.1, own.2.1, plainParent.2.2⟩
    rw [reference_of_bare bare, beside.qualified_inj plainParent, bare, Graph.isSome_table?_iff]
    constructor
    · exact fun same => ⟨by simp, fun _ => same ▸ known⟩
    · rintro ⟨_, near⟩
      exact (nearest.resolve_right (not_not_intro (near rfl))).symm
  · -- With a schema in front, both add the database of the referring table.
    have completed : TableKey.Plain ⟨table.key.db, parent.schema, parent.table⟩ :=
      database ▸ plainParent
    rw [reference_of_two_parts completed parts, parts]
    simp [← database]
  · -- Scripts write every part of a longer reference, diagrams go by the last three.
    rw [reference_of_long (by simp [parts]), ← (Text.pieces_injective '.').eq_iff,
      plainParent.pieces_qualified, parts]
    simp [← List.length_eq_zero_iff]

/-- A document with references of all lengths, two of which have no table beside them. -/
def scatteredDocument : Value :=
  let record (entries : List (String × Value)) : Value := .dict (Entries.named entries)
  let column (name referred : String) : Value :=
    record [("name", .text name), ("fk", record [("table", .text referred)])]
  let group (schema : String) (tables : List Value) : Value :=
    record [("db", .text "d"), ("schema", .text schema), ("tables", .list tables)]
  record [("targets", .list [
    group "a" [
      record [("name", .text "orders"), ("columns", .list [column "item" "items",
        column "user" "users", column "agent" "b.users", column "payer" "x.d.b.users"])],
      record [("name", .text "items")]],
    group "b" [record [("name", .text "users")]]])]

/-- The table of that document with the references. -/
def scatteredTable : Table where
  key := ⟨"d", "a", "orders"⟩
  columns := [⟨"item", "", false, some ⟨"items", .null⟩, false, false, none, none⟩,
    ⟨"user", "", false, some ⟨"users", .null⟩, false, false, none, none⟩,
    ⟨"agent", "", false, some ⟨"b.users", .null⟩, false, false, none, none⟩,
    ⟨"payer", "", false, some ⟨"x.d.b.users", .null⟩, false, false, none, none⟩]
  description := none
  owner := none

/-- What that document declares. -/
def scatteredGraph : Graph where
  project := ""
  owners := []
  sources := []
  tables := [scatteredTable, ⟨⟨"d", "a", "items"⟩, [], none, none, List.nodup_nil⟩,
    ⟨⟨"d", "b", "users"⟩, [], none, none, List.nodup_nil⟩]
  mappings := []
  redeclared := []
  ids_nodup := List.nodup_nil
  keys_nodup := by decide

theorem plain_scatteredGraph : ∀ table ∈ scatteredGraph.tables, table.key.Plain := by decide

theorem reference_in_scatteredGraph :
    (∀ table ∈ scatteredGraph.tables, table.key.Plain) ∧ scatteredTable ∈ scatteredGraph.tables ∧
      (scatteredGraph.resolve? scatteredTable.key "items" = some ⟨"d", "a", "items"⟩ ∧
        reference scatteredTable.key "items" = TableKey.qualified ⟨"d", "a", "items"⟩) ∧
      scatteredGraph.resolve? scatteredTable.key "b.users" = some ⟨"d", "b", "users"⟩ ∧
        reference scatteredTable.key "b.users" = TableKey.qualified ⟨"d", "b", "users"⟩ := by
  have near : scatteredGraph.resolve? scatteredTable.key "items" = some ⟨"d", "a", "items"⟩ := by
    decide
  have far : scatteredGraph.resolve? scatteredTable.key "b.users" = some ⟨"d", "b", "users"⟩ := by
    decide
  have declared : scatteredTable ∈ scatteredGraph.tables := .head _
  refine ⟨plain_scatteredGraph, declared, ⟨near, ?_⟩, far, ?_⟩
  · exact (reference_eq_qualified_iff scatteredGraph plain_scatteredGraph declared near).mpr
      (by decide)
  · exact (reference_eq_qualified_iff scatteredGraph plain_scatteredGraph declared far).mpr
      (by decide)

/-- Plain names alone do not make diagrams and scripts agree: of one table, a bare reference and one
of four parts lead a diagram to a table that the scripts do not name. -/
theorem references_apart :
    ∃ graph, Graph.ofDocument? "" scatteredDocument = .ok graph ∧
      (∀ table ∈ graph.tables, table.key.Plain) ∧
      ∃ table ∈ graph.tables, ∃ parent, ∀ referred ∈ ["users", "x.d.b.users"],
        (∃ column ∈ table.columns, ∃ fk ∈ column.fk, fk.table = referred) ∧
          graph.resolve? table.key referred = some parent ∧
          reference table.key referred ≠ parent.qualified := by
  refine ⟨scatteredGraph, rfl, plain_scatteredGraph, scatteredTable, .head _, ?_⟩
  exact ⟨⟨"d", "b", "users"⟩, by decide⟩

end SchemaAtlas.Dialect
