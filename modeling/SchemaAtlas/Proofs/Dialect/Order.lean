import SchemaAtlas.Dialect.Script
import SchemaAtlas.Schema.Declaration
import SchemaAtlas.Proofs.Keyed
import SchemaAtlas.Proofs.Sorting
import Mathlib.Data.Prod.Lex
import Mathlib.Data.String.Basic
import Mathlib.Logic.Relation

/-! # The order of tables in scripts

Scripts create tables in the order of their dotted keys, and those of two engines by rank first.
Where no two tables share a dotted key, that leaves no room for the order in which they were
declared. It leaves none for foreign keys either: a referred table comes first just when its rank
and its key put it there, so tables whose references form no cycle may still be created before what
they refer to.
-/

namespace SchemaAtlas.Dialect

open Schema Document Sorting

section Comparison

theorem comparesBy_dotted :
    ComparesBy (fun a b : Table => decide (a.key.dotted ≤ b.key.dotted)) (·.key.dotted) :=
  fun _ _ => decide_eq_true_iff

/-- What scripts with ranks sort tables by. -/
def place (table : Table) : Nat ×ₗ String := toLex (rank table.key, table.key.dotted)

theorem comparesBy_place : ComparesBy (fun a b : Table => decide (rank a.key < rank b.key) ||
    (rank a.key == rank b.key && decide (a.key.dotted ≤ b.key.dotted))) place := by
  intro a b
  simp [place, Prod.Lex.toLex_le_toLex]

end Comparison

section Permuted

variable {tables others : List Table}

theorem byKey_eq_of_perm (distinct : (tables.map (·.key.dotted)).Nodup)
    (perm : tables.Perm others) : byKey tables = byKey others :=
  mergeSort_eq_of_perm comparesBy_dotted distinct perm

theorem byRank_eq_of_perm (distinct : (tables.map (·.key.dotted)).Nodup)
    (perm : tables.Perm others) : byRank tables = byRank others := by
  have places : (tables.map place).Nodup := by
    apply List.Nodup.of_map fun place => (ofLex place).2
    rw [List.map_map]
    exact distinct
  exact mergeSort_eq_of_perm comparesBy_place places perm

theorem databases_eq_of_perm (perm : tables.Perm others) :
    MySQL.databases tables = MySQL.databases others := by
  unfold MySQL.databases
  rw [Keyed.distinct_eq, Keyed.distinct_eq]
  refine mergeSort_eq_of_perm comparesBy_id ?_
    (Keyed.eraseDups_perm ((perm.map _).filter _))
  rw [List.map_id]
  exact Keyed.nodup_eraseDups _

/-- Scripts do not tell in which order tables were declared, as long as no two tables share a dotted
key. -/
theorem render_of_permuted_tables (graph permuted : Graph)
    (project : permuted.project = graph.project) (perm : graph.tables.Perm permuted.tables)
    (distinct : (graph.tables.map (·.key.dotted)).Nodup) :
    (∀ dialect, render permuted dialect = render graph dialect) ∧
      ∀ requested, renderAll permuted requested = renderAll graph requested := by
  have each (dialect : Dialect) : render permuted dialect = render graph dialect := by
    cases dialect with
    | postgres =>
      simp only [render, Postgres.ofGraph, project, byRank_eq_of_perm distinct perm]
    | mysql =>
      simp only [render, MySQL.ofGraph, project, byRank_eq_of_perm distinct perm,
        databases_eq_of_perm perm]
    | snowflake =>
      simp only [render, Snowflake.ofGraph, project, byKey_eq_of_perm distinct perm]
    | mongodb =>
      simp only [render, MongoDB.ofGraph, project, byKey_eq_of_perm distinct perm]
  refine ⟨each, fun requested => ?_⟩
  simp only [renderAll, each]

/-- Tables of all three ranks in two databases, declared against the order of scripts. -/
def starTables : List Table :=
  [⟨⟨"shop", "s", "fct_orders"⟩, [⟨"user", "INT", false, some ⟨"dim_users", .text "id"⟩, false,
      false, none, none⟩], none, none, by simp⟩,
    ⟨⟨"shop", "s", "events"⟩, [], none, none, List.nodup_nil⟩,
    ⟨⟨"app", "s", "log"⟩, [], none, none, List.nodup_nil⟩,
    ⟨⟨"shop", "s", "dim_users"⟩, [⟨"id", "INT", true, none, false, true, none, none⟩], none, none,
      by simp⟩]

/-- A schema graph of given tables and nothing else. -/
def starGraph (tables : List Table) (nodup : (tables.map Table.key).Nodup) : Graph where
  project := "star"
  owners := []
  sources := []
  tables := tables
  mappings := []
  redeclared := []
  ids_nodup := List.nodup_nil
  keys_nodup := nodup

theorem render_of_reversed_starTables :
    starTables.Perm starTables.reverse ∧ (starTables.map (·.key.dotted)).Nodup ∧
      (∀ dialect, render (starGraph starTables.reverse (by decide)) dialect =
        render (starGraph starTables (by decide)) dialect) ∧
      ∀ requested, renderAll (starGraph starTables.reverse (by decide)) requested =
        renderAll (starGraph starTables (by decide)) requested := by
  have perm : starTables.Perm starTables.reverse := (List.reverse_perm _).symm
  have distinct : (starTables.map (·.key.dotted)).Nodup := by decide
  exact ⟨perm, distinct, render_of_permuted_tables (starGraph starTables (by decide))
    (starGraph starTables.reverse (by decide)) rfl perm distinct⟩

end Permuted

section References

/-- A foreign key of a table, written as a script writes it, is the name of another table. -/
def RefersAs (written : TableKey → String → String) (named : TableKey → String)
    (table referred : Table) : Prop :=
  referred.key ≠ table.key ∧
    ∃ column ∈ table.columns, ∃ fk ∈ column.fk, written table.key fk.table = named referred.key

/-- References between tables in a PostgreSQL script. -/
def Postgres.Refers : Table → Table → Prop := RefersAs reference TableKey.qualified

/-- References between tables in a MySQL script. -/
def MySQL.Refers : Table → Table → Prop := RefersAs MySQL.reference MySQL.tableName

/-- No table refers to itself by way of other ones. -/
def Acyclic (refers : Table → Table → Prop) (tables : List Table) : Prop :=
  ∀ table, ¬ Relation.TransGen
    (fun referrer referred => referrer ∈ tables ∧ referred ∈ tables ∧ refers referrer referred)
    table table

/-- Whatever a table refers to stands before it. -/
def ReferredFirst (refers : Table → Table → Prop) (order : List Table) : Prop :=
  ∀ table ∈ order, ∀ referred ∈ order, refers table referred → [referred, table].Sublist order

/-- A table is of a lower rank than another, or of the same rank and a lesser dotted key; of two
tables with one rank and one dotted key the one declared earlier. -/
def RanksBefore (tables : List Table) (first second : Table) : Prop :=
  rank first.key < rank second.key ∨
    rank first.key = rank second.key ∧
      (first.key.dotted < second.key.dotted ∨
        first.key.dotted = second.key.dotted ∧ [first, second].Sublist tables)

/-- Whatever a table refers to ranks before it. -/
def RefersUp (refers : Table → Table → Prop) (tables : List Table) : Prop :=
  ∀ table ∈ tables, ∀ referred ∈ tables, refers table referred → RanksBefore tables referred table

variable {graph : Graph} {refers : Table → Table → Prop}

/-- Tables are created by rank, then by dotted key, whatever they refer to. -/
theorem pair_sublist_byRank_iff {first second : Table} (here : first ∈ graph.tables)
    (there : second ∈ graph.tables) (apart : first.key ≠ second.key) :
    [first, second].Sublist (byRank graph.tables) ↔ RanksBefore graph.tables first second := by
  unfold byRank RanksBefore
  rw [pair_sublist_mergeSort_iff comparesBy_place (List.Nodup.of_map _ graph.keys_nodup) here there
    fun same => apart (congrArg Table.key same)]
  simp only [place, Prod.Lex.toLex_lt_toLex, EmbeddingLike.apply_eq_iff_eq, Prod.mk.injEq]
  tauto

theorem referredFirst_byRank_iff (apart : ∀ {table referred}, refers table referred →
    referred.key ≠ table.key) :
    ReferredFirst refers (byRank graph.tables) ↔ RefersUp refers graph.tables := by
  unfold ReferredFirst RefersUp byRank
  simp only [List.mem_mergeSort]
  refine forall₄_congr fun table here referred there => forall_congr' fun reference => ?_
  exact pair_sublist_byRank_iff there here (apart reference)

/-- Scripts of PostgreSQL and MySQL create tables in one order, which goes by rank and dotted key
and by no reference. So every referred table is created before its referrers exactly when each
reference leads to a table that ranks before the referring one. -/
theorem created_by_rank (graph : Graph) :
    ∃ order, order.Perm graph.tables ∧
      render graph .postgres =
        script (opening .postgres graph.project) (order.map Postgres.createTable) ∧
      render graph .mysql =
        script (opening .mysql graph.project)
          ((MySQL.databases graph.tables).map
            (fun db => "CREATE DATABASE IF NOT EXISTS " ++ db ++ ";") ++
              order.map MySQL.createTable) ∧
      (∀ first ∈ order, ∀ second ∈ order, first.key ≠ second.key →
        ([first, second].Sublist order ↔ RanksBefore graph.tables first second)) ∧
      (ReferredFirst Postgres.Refers order ↔ RefersUp Postgres.Refers graph.tables) ∧
      (ReferredFirst MySQL.Refers order ↔ RefersUp MySQL.Refers graph.tables) := by
  refine ⟨byRank graph.tables, List.mergeSort_perm _ _, rfl, rfl, ?_,
    referredFirst_byRank_iff And.left, referredFirst_byRank_iff And.left⟩
  intro first here second there apart
  exact pair_sublist_byRank_iff (List.mem_mergeSort.mp here) (List.mem_mergeSort.mp there) apart

/-- A document whose one reference leads from a table to another of the same rank that comes later
in the alphabet. -/
def ordersDocument : Value :=
  let record (entries : List (String × Value)) : Value := .dict (Entries.named entries)
  let table (name : String) (column : List (String × Value)) : Value :=
    record [("name", .text name), ("columns", .list [record column])]
  record [("targets", .list [record [("db", .text "shop"), ("tables", .list [
    table "orders" [("name", .text "user_id"), ("fk", .text "users.id")],
    table "users" [("name", .text "id"), ("pk", .bool true)]])]])]

/-- The referring table of that document. -/
def ordersTable : Table where
  key := ⟨"shop", "public", "orders"⟩
  columns := [⟨"user_id", "", false, some ⟨"users", .text "id"⟩, false, false, none, none⟩]
  description := none
  owner := none

/-- The referred table of that document. -/
def usersTable : Table where
  key := ⟨"shop", "public", "users"⟩
  columns := [⟨"id", "", true, none, false, false, none, none⟩]
  description := none
  owner := none

/-- What that document declares. -/
def ordersGraph : Graph where
  project := ""
  owners := []
  sources := []
  tables := [ordersTable, usersTable]
  mappings := []
  redeclared := []
  ids_nodup := List.nodup_nil
  keys_nodup := by decide

theorem acyclic_of_descent {tables : List Table} (height : Table → Nat)
    (descends : ∀ {table referred}, table ∈ tables → referred ∈ tables → refers table referred →
      height referred < height table) : Acyclic refers tables := by
  intro table cycle
  have path : Relation.TransGen (· > ·) (height table) (height table) :=
    cycle.lift height fun _ _ ⟨here, there, reference⟩ => descends here there reference
  rw [Relation.transGen_eq_self] at path
  exact lt_irrefl _ path

/-- However references are written, the only one leads from the orders to the users. -/
theorem acyclic_ordersGraph (written : TableKey → String → String) (named : TableKey → String) :
    Acyclic (RefersAs written named) ordersGraph.tables := by
  apply acyclic_of_descent fun table => if table.key = ordersTable.key then 1 else 0
  rintro table referred here there ⟨apart, column, member, fk, given, _⟩
  obtain rfl | rfl : table = ordersTable ∨ table = usersTable := by simpa [ordersGraph] using here
  · simp [apart]
  · obtain rfl := List.mem_singleton.mp member
    cases given

/-- References without a cycle do not order the scripts: here the referring table comes first. -/
theorem referring_table_created_first :
    ∃ graph, Graph.ofDocument? "" ordersDocument = .ok graph ∧
      Acyclic Postgres.Refers graph.tables ∧ Acyclic MySQL.Refers graph.tables ∧
      ∃ table ∈ graph.tables, ∃ referred ∈ graph.tables,
        Postgres.Refers table referred ∧ MySQL.Refers table referred ∧
        render graph .postgres = script (opening .postgres graph.project)
          [Postgres.createTable table, Postgres.createTable referred] ∧
        render graph .mysql = script (opening .mysql graph.project)
          ["CREATE DATABASE IF NOT EXISTS shop;", MySQL.createTable table,
            MySQL.createTable referred] := by
  have sorted : byRank ordersGraph.tables = [ordersTable, usersTable] :=
    List.mergeSort_of_pairwise (by decide)
  have databases : MySQL.databases ordersGraph.tables = ["shop"] :=
    List.mergeSort_of_pairwise (by decide)
  refine ⟨ordersGraph, rfl, acyclic_ordersGraph _ _, acyclic_ordersGraph _ _, ordersTable, .head _,
    usersTable, .tail _ (.head _), ?_, ?_, ?_, ?_⟩
  · exact ⟨by decide, _, .head _, _, rfl, by decide⟩
  · exact ⟨by decide, _, .head _, _, rfl, by decide⟩
  · rw [render, Postgres.ofGraph, sorted]
    rfl
  · rw [render, MySQL.ofGraph, sorted, databases]
    rfl

end References

end SchemaAtlas.Dialect
