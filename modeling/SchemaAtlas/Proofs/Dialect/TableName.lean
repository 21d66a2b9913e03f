import SchemaAtlas.Dialect.Script
import SchemaAtlas.Schema.Declaration
import SchemaAtlas.Proofs.Schema.Reference
import Mathlib.Data.List.Nodup

/-! # Names that tables are created under

A script in SQL creates every table of a graph once, under a name that is read off the table's key.
PostgreSQL and Snowflake write all three parts of the key, so plain keys give different names. MySQL
knows no schema below a database and leaves it out. There two tables share a name just when they
share database and table name, and what a script declares for the later one is lost, since a table
is only created when there is none of its name.
-/

namespace SchemaAtlas.Dialect

open Schema Document

/-- A script creates each table of a graph once, in some order: its name follows the words that
create a table, and no other statement starts with these words. -/
structure CreatesUnder (graph : Graph) (dialect : Dialect) (words : String)
    (name : TableKey → String) (order : List Table) : Prop where
  perm : order.Perm graph.tables
  written : ∃ (before : List String) (create : Table → String),
    render graph dialect =
        script (opening dialect graph.project) (before ++ order.map create) ∧
      (∀ table, ∃ definitions, create table = words ++ name table.key ++ " (\n" ++ definitions) ∧
      ∀ statement ∈ before, Text.startsWith words.toList statement.toList = false

section Scripts

variable (graph : Graph)

/-- The definitions of a statement stand behind the name of its table. -/
theorem exists_definitions (words name closing : String) (definitions : List String) :
    ∃ rest, words ++ name ++ body definitions ++ closing = words ++ name ++ " (\n" ++ rest := by
  refine ⟨Text.joined ",\n" definitions ++ "\n)" ++ closing, ?_⟩
  simp only [body, String.append_assoc]

theorem Postgres.createsUnder : CreatesUnder graph .postgres "CREATE TABLE IF NOT EXISTS "
    TableKey.qualified (byRank graph.tables) where
  perm := List.mergeSort_perm _ _
  written := ⟨[], createTable, rfl, fun _ => exists_definitions _ _ _ _, by simp⟩

theorem Snowflake.createsUnder : CreatesUnder graph .snowflake "CREATE OR REPLACE TABLE "
    TableKey.qualified (byKey graph.tables) where
  perm := List.mergeSort_perm _ _
  written := ⟨[], createTable, rfl, fun _ => exists_definitions _ _ _ _, by simp⟩

theorem MySQL.createsUnder : CreatesUnder graph .mysql "CREATE TABLE IF NOT EXISTS "
    tableName (byRank graph.tables) where
  perm := List.mergeSort_perm _ _
  written := by
    refine ⟨_, createTable, rfl, fun _ => exists_definitions _ _ _ _, ?_⟩
    intro statement member
    obtain ⟨db, _, rfl⟩ := List.mem_map.mp member
    rw [String.toList_append, String.toList_append, List.append_assoc]
    rfl

end Scripts

section Names

variable {key other : TableKey}

theorem MySQL.pieces_tableName (plain : key.Plain) :
    Text.pieces '.' (tableName key) = [key.db, key.table] := by
  have database := plain key.db (by simp)
  have table := plain key.table (by simp)
  rw [tableName, dotted, Text.filter_nonempty (by simp [database.1, table.1])]
  exact Text.pieces_joined (List.cons_ne_nil _ _) (by simp [database.2, table.2])

/-- MySQL tells plain keys apart by database and table name alone. -/
theorem MySQL.tableName_inj (plain : key.Plain) (plain' : other.Plain) :
    tableName key = tableName other ↔ key.db = other.db ∧ key.table = other.table := by
  rw [← (Text.pieces_injective '.').eq_iff, pieces_tableName plain, pieces_tableName plain']
  simp

end Names

variable {graph : Graph} {order : List Table}

theorem nodup_qualified (plain : ∀ table ∈ graph.tables, table.key.Plain)
    (perm : order.Perm graph.tables) : (order.map (·.key.qualified)).Nodup := by
  have keys : (order.map Table.key).Nodup := ((perm.map Table.key).nodup_iff).mpr graph.keys_nodup
  have named (table : Table) (member : table ∈ order) : table.key.Plain :=
    plain table (perm.mem_iff.mp member)
  have apart := keys.map_on (f := TableKey.qualified) ?_
  · rwa [List.map_map] at apart
  · simp only [List.forall_mem_map]
    intro first here second there same
    exact ((named first here).qualified_inj (named second there)).mp same

/-- Where the parts of the keys are names, PostgreSQL and Snowflake create all tables under different
names. MySQL creates two tables under one name just when they share database and table name. -/
theorem tables_created_apart (graph : Graph) (plain : ∀ table ∈ graph.tables, table.key.Plain) :
    (∃ order, CreatesUnder graph .postgres "CREATE TABLE IF NOT EXISTS " TableKey.qualified order ∧
        (order.map (·.key.qualified)).Nodup) ∧
      (∃ order, CreatesUnder graph .snowflake "CREATE OR REPLACE TABLE " TableKey.qualified order ∧
        (order.map (·.key.qualified)).Nodup) ∧
      ∃ order, CreatesUnder graph .mysql "CREATE TABLE IF NOT EXISTS " MySQL.tableName order ∧
        ∀ first ∈ order, ∀ second ∈ order,
          (MySQL.tableName first.key = MySQL.tableName second.key ↔
            first.key.db = second.key.db ∧ first.key.table = second.key.table) := by
  have postgres := Postgres.createsUnder graph
  have snowflake := Snowflake.createsUnder graph
  have mysql := MySQL.createsUnder graph
  refine ⟨⟨_, postgres, nodup_qualified plain postgres.perm⟩,
    ⟨_, snowflake, nodup_qualified plain snowflake.perm⟩, _, mysql, ?_⟩
  intro first here second there
  exact MySQL.tableName_inj (plain first (mysql.perm.mem_iff.mp here))
    (plain second (mysql.perm.mem_iff.mp there))

/-- A document with one table name in two schemas of a database, and in another database. -/
def archiveDocument : Value :=
  let record (entries : List (String × Value)) : Value := .dict (Entries.named entries)
  let group (db schema column : String) : Value :=
    record [("db", .text db), ("schema", .text schema), ("tables", .list [
      record [("name", .text "orders"), ("columns", .list [record [("name", .text column)]])]])]
  record [("targets", .list [group "shop" "archive" "year", group "shop" "sales" "total",
    group "web" "sales" "visit"])]

/-- One of the tables of that document. -/
def archiveTable (db schema column : String) : Table where
  key := ⟨db, schema, "orders"⟩
  columns := [⟨column, "", false, none, false, false, none, none⟩]
  description := none
  owner := none

/-- What that document declares. -/
def archiveGraph : Graph where
  project := ""
  owners := []
  sources := []
  tables := [archiveTable "shop" "archive" "year", archiveTable "shop" "sales" "total",
    archiveTable "web" "sales" "visit"]
  mappings := []
  redeclared := []
  ids_nodup := List.nodup_nil
  keys_nodup := by decide

theorem tables_of_archiveGraph_created_apart :
    (∀ table ∈ archiveGraph.tables, table.key.Plain) ∧
      (∃ order, CreatesUnder archiveGraph .postgres "CREATE TABLE IF NOT EXISTS "
          TableKey.qualified order ∧ (order.map (·.key.qualified)).Nodup) ∧
      ∃ order, CreatesUnder archiveGraph .mysql "CREATE TABLE IF NOT EXISTS "
        MySQL.tableName order ∧ ∀ first ∈ order, ∀ second ∈ order,
          (MySQL.tableName first.key = MySQL.tableName second.key ↔
            first.key.db = second.key.db ∧ first.key.table = second.key.table) := by
  have plain : ∀ table ∈ archiveGraph.tables, table.key.Plain := by decide
  have apart := tables_created_apart archiveGraph plain
  exact ⟨plain, apart.1, apart.2.2⟩

/-- Two tables that differ in their schema alone are created under one name in a MySQL script, and
what the second one declares is lost. -/
theorem tables_created_alike :
    ∃ graph, Graph.ofDocument? "" archiveDocument = .ok graph ∧
      (∀ table ∈ graph.tables, table.key.Plain) ∧
      ∃ first ∈ graph.tables, ∃ second ∈ graph.tables, first.key ≠ second.key ∧
        render graph .mysql = script (opening .mysql graph.project)
          ["CREATE DATABASE IF NOT EXISTS shop;", "CREATE DATABASE IF NOT EXISTS web;",
            "CREATE TABLE IF NOT EXISTS shop.orders (\n  year VARCHAR(255)\n) ENGINE=InnoDB;",
            "CREATE TABLE IF NOT EXISTS shop.orders (\n  total VARCHAR(255)\n) ENGINE=InnoDB;",
            "CREATE TABLE IF NOT EXISTS web.orders (\n  visit VARCHAR(255)\n) ENGINE=InnoDB;"] ∧
        MySQL.createTable first =
          "CREATE TABLE IF NOT EXISTS shop.orders (\n  year VARCHAR(255)\n) ENGINE=InnoDB;" ∧
        MySQL.createTable second =
          "CREATE TABLE IF NOT EXISTS shop.orders (\n  total VARCHAR(255)\n) ENGINE=InnoDB;" := by
  have sorted : byRank archiveGraph.tables = archiveGraph.tables :=
    List.mergeSort_of_pairwise (by decide)
  have databases : MySQL.databases archiveGraph.tables = ["shop", "web"] :=
    List.mergeSort_of_pairwise (by decide)
  refine ⟨archiveGraph, rfl, by decide, archiveTable "shop" "archive" "year", .head _,
    archiveTable "shop" "sales" "total", .tail _ (.head _), by decide, ?_, rfl, rfl⟩
  rw [render, MySQL.ofGraph, sorted, databases]
  rfl

end SchemaAtlas.Dialect
