import SchemaAtlas.Diagram.EntityRelation
import SchemaAtlas.Site.Documentation
import SchemaAtlas.Proofs.Diagram.Token
import SchemaAtlas.Proofs.FilePath
import SchemaAtlas.Proofs.Keyed
import SchemaAtlas.Proofs.Site.Shown
import Mathlib.Algebra.Ring.Nat

/-! # Diagrams and the summary by groups of tables

The tables of a graph fall into groups, one for each database and schema. Diagrams and the
documentation summary go through the same groups in the same order, and each group holds its tables
in the order of their declaration. The files of diagrams are numbered where databases and schemas
look alike in a file name, so there are as many of them as groups, with the overview in front.
-/

namespace SchemaAtlas.Schema

/-- The database and the schema of a table. -/
def Table.area (table : Table) : String × String := (table.key.db, table.key.schema)

namespace Graph

/-- The databases with their schemas that tables are declared in, in order of first appearance. -/
def areas (graph : Graph) : List (String × String) := (graph.tables.map Table.area).eraseDups

/-- The tables of a database and schema, in order of declaration. -/
def tablesIn (graph : Graph) (area : String × String) : List Table :=
  graph.tables.filter fun table => decide (table.area = area)

variable {graph : Graph} {area : String × String}

theorem nodup_areas (graph : Graph) : graph.areas.Nodup := Keyed.nodup_eraseDups _

theorem mem_areas_iff : area ∈ graph.areas ↔ ∃ table ∈ graph.tables, table.area = area := by
  rw [areas, List.mem_eraseDups, List.mem_map]

theorem groups_eq_areas (graph : Graph) :
    graph.groups = graph.areas.map fun area => (area, graph.tablesIn area) :=
  Keyed.groups_eq Table.area graph.tables

theorem length_groups (graph : Graph) : graph.groups.length = graph.areas.length := by
  rw [groups_eq_areas, List.length_map]

/-- The groups hold every table once. -/
theorem flatMap_tablesIn (graph : Graph) : (graph.areas.flatMap graph.tablesIn).Perm graph.tables := by
  have whole : (graph.groups.flatMap (·.2)).Perm graph.tables :=
    Keyed.flatMap_groups Table.area graph.tables
  rwa [groups_eq_areas, List.flatMap_map] at whole

theorem sum_length_tablesIn (graph : Graph) :
    (graph.areas.map fun area => (graph.tablesIn area).length).sum = graph.tables.length := by
  rw [← List.length_flatMap, graph.flatMap_tablesIn.length_eq]

end Graph

end SchemaAtlas.Schema

namespace SchemaAtlas.Diagram

open Schema FileName FilePath

section Names

theorem allSafe_of_isToken {s : String} (token : IsToken s) : AllSafe s := by
  intro c member
  have kind := token c member
  rw [isTokenChar, Bool.or_eq_true] at kind
  rcases kind with letter | underscore
  · simp [isSafe, letter]
  · simp [isSafe, underscore]

theorem allSafe_groupStem (group : (String × String) × List Table) : AllSafe (groupStem group) := by
  have opening : AllSafe "erd_" := by decide
  have divider : AllSafe "_" := by decide
  have name (s : String) : AllSafe (nameOf s) := allSafe_of_isToken (isToken_nameOf s)
  exact ((opening.append (name _)).append divider).append (name _)

/-- The diagram of all tables, when it is asked for and there are any. -/
def overviews (graph : Graph) (overview : Bool) : List (String × String) :=
  if overview && !graph.tables.isEmpty then [("erd_all.mmd", render graph graph.tables)] else []

theorem overviews_cases (graph : Graph) (overview : Bool) :
    overviews graph overview = [] ∨
      overviews graph overview = [(overviewName, render graph graph.tables)] := by
  unfold overviews
  split
  · exact .inr rfl
  · exact .inl rfl

theorem nodup_overviews (graph : Graph) (overview : Bool) :
    ((overviews graph overview).map (·.1)).Nodup := by
  rcases overviews_cases graph overview with none | one
  · simp [none]
  · simp [one]

/-- The diagrams: possibly the overview, and one for every group under a name that is fresh for it. -/
theorem ofGraph_eq (graph : Graph) (overview : Bool) :
    ofGraph graph overview = overviews graph overview ++
      (assign groupStem ".mmd" ((overviews graph overview).map (·.1)) graph.groups).map
        fun entry => (entry.1, render graph entry.2.2) := rfl

theorem map_fst_ofGraph (graph : Graph) (overview : Bool) :
    (ofGraph graph overview).map (·.1) = (overviews graph overview).map (·.1) ++
      (assign groupStem ".mmd" ((overviews graph overview).map (·.1)) graph.groups).map (·.1) := by
  rw [ofGraph_eq, List.map_append, List.map_map]
  rfl

/-- No diagram replaces another, whatever databases and schemas are called. -/
theorem nodup_ofGraph (graph : Graph) (overview : Bool) :
    ((ofGraph graph overview).map (·.1)).Nodup := by
  rw [map_fst_ofGraph]
  exact nodup_append_assign _ _ (nodup_overviews graph overview) _

theorem isName_of_mem_ofGraph {graph : Graph} {overview : Bool} {name : String}
    (member : name ∈ (ofGraph graph overview).map (·.1)) : IsName name := by
  rw [map_fst_ofGraph] at member
  rcases List.mem_append.mp member with first | assigned
  · rcases overviews_cases graph overview with none | one
    · simp [none] at first
    · obtain rfl : name = overviewName := by simpa [one] using first
      decide
  · exact isName_of_mem_assign allSafe_groupStem (by decide) (by decide) assigned

end Names

section Groups

variable {graph : Graph} {area : String × String}

/-- A file shows the tables of a database and schema, and is named after the two: plainly, or with a
number where the plain name is in use. -/
structure Draws (graph : Graph) (area : String × String) (file : String × String) : Prop where
  text : file.2 = render graph (graph.tablesIn area)
  name : file.1 = "erd_" ++ nameOf area.1 ++ "_" ++ nameOf area.2 ++ ".mmd" ∨
    ∃ number, 2 ≤ number ∧
      file.1 = numberedName ("erd_" ++ nameOf area.1 ++ "_" ++ nameOf area.2) ".mmd" number

theorem draws_fresh (area : String × String) (used : List String) :
    Draws graph area (fresh (groupStem (area, graph.tablesIn area)) ".mmd" used,
      render graph (graph.tablesIn area)) := by
  refine ⟨rfl, ?_⟩
  rcases fresh_cases (groupStem (area, graph.tablesIn area)) ".mmd" used with
    ⟨_, plain⟩ | ⟨_, number, least, numbered, _⟩
  · exact .inl plain
  · exact .inr ⟨number, least, numbered⟩

/-- Behind the overview there is one diagram for each group, in the order of the groups. -/
theorem exists_drawn (graph : Graph) (overview : Bool) :
    ∃ drawn, ofGraph graph overview = overviews graph overview ++ drawn ∧
      List.Forall₂ (Draws graph) graph.areas drawn := by
  refine ⟨_, ofGraph_eq graph overview, ?_⟩
  rw [List.forall₂_map_right_iff]
  have named := forall₂_assign groupStem ".mmd" ((overviews graph overview).map (·.1)) graph.groups
  conv at named => arg 2; rw [Graph.groups_eq_areas]
  rw [List.forall₂_map_left_iff] at named
  refine named.imp ?_
  rintro area ⟨name, group⟩ ⟨rfl, others, rfl⟩
  exact draws_fresh area others

/-- One diagram for each database and schema, in order of first appearance and behind the overview
if that is wanted, under file names that are all different. -/
structure DrawsAll (graph : Graph) (overview : Bool) (files : List (String × String)) : Prop where
  drawn : ∃ drawn, files = (if overview && !graph.tables.isEmpty then
      [("erd_all.mmd", render graph graph.tables)] else []) ++ drawn ∧
    List.Forall₂ (Draws graph) graph.areas drawn
  nodup : (files.map (·.1)).Nodup

theorem drawsAll_ofGraph (graph : Graph) (overview : Bool) :
    DrawsAll graph overview (ofGraph graph overview) :=
  ⟨exists_drawn graph overview, nodup_ofGraph graph overview⟩

end Groups

end SchemaAtlas.Diagram

namespace SchemaAtlas.Site

open Schema Document

/-- An entry of the summary tells of a table. -/
structure Tells (table : Table) (entry : Value) : Prop where
  name : entry.entries.get "name" = .text table.key.table
  description : entry.entries.get "description" = .ofText? table.description
  columns : entry.entries.get "column_count" = .int table.columns.length

/-- An entry of the summary lists the tables of a database and schema. -/
structure Lists (graph : Graph) (area : String × String) (entry : Value) : Prop where
  db : entry.entries.get "db" = .text area.1
  schema : entry.entries.get "schema" = .text area.2
  tables : ∃ told, entry.entries.get "tables" = .list told ∧
    List.Forall₂ Tells (graph.tablesIn area) told

variable {graph : Graph}

theorem tells_tableEntry (table : Table) : Tells table (tableEntry table) := by
  constructor <;> simp [tableEntry, Value.entries]

theorem lists_groupEntry (area : String × String) :
    Lists graph area (groupEntry (area, graph.tablesIn area)) := by
  constructor
  case db => simp [groupEntry, Value.entries]
  case schema => simp [groupEntry, Value.entries]
  case tables =>
    refine ⟨(graph.tablesIn area).map tableEntry, by simp [groupEntry, Value.entries], ?_⟩
    rw [List.forall₂_map_right_iff, List.forall₂_same]
    exact fun table _ => tells_tableEntry table

theorem exists_listed (graph : Graph) (stamp : Moment) :
    ∃ listed, (documentation graph stamp).get "targets" = .list listed ∧
      List.Forall₂ (Lists graph) graph.areas listed := by
  refine ⟨graph.groups.map groupEntry, by simp [documentation], ?_⟩
  rw [Graph.groups_eq_areas, List.map_map, List.forall₂_map_right_iff, List.forall₂_same]
  exact fun area _ => lists_groupEntry area

theorem get_summary (graph : Graph) (stamp : Moment) :
    ((documentation graph stamp).get "summary").entries.get "total_targets" =
        .int graph.areas.length ∧
      ((documentation graph stamp).get "summary").entries.get "total_tables" =
        .int graph.tables.length := by
  have summary : (documentation graph stamp).get "summary" = totalsEntry (Totals.of graph) := by
    simp [documentation]
  rw [summary]
  constructor
  · simp [totalsEntry, Value.entries, Totals.of, Graph.length_groups]
  · simp [totalsEntry, Value.entries, Totals.of]

/-- The summary lists every database and schema in order of first appearance, and its sizes are those
of the list. -/
structure ListsAll (graph : Graph) (summary : Entries) : Prop where
  targets : ∃ listed, summary.get "targets" = .list listed ∧
    List.Forall₂ (Lists graph) graph.areas listed
  total_targets : (summary.get "summary").entries.get "total_targets" = .int graph.areas.length
  total_tables : (summary.get "summary").entries.get "total_tables" =
    .int (graph.areas.map fun area => (graph.tablesIn area).length).sum

theorem listsAll_documentation (graph : Graph) (stamp : Moment) :
    ListsAll graph (documentation graph stamp) := by
  obtain ⟨targets, tables⟩ := get_summary graph stamp
  refine ⟨exists_listed graph stamp, targets, ?_⟩
  rw [graph.sum_length_tablesIn, tables]

/-- Diagrams and the summary share one partition of the tables by database and schema: there is one
diagram and one entry for each of the areas in order of first appearance, with the tables declared
there. The diagrams are made unless a column that a foreign key names cannot be written, the summary
unless the place of a source cannot. -/
theorem diagrams_and_summary_agree (graph : Graph) (overview : Bool) (stamp : Moment) :
    (graph.areas.Nodup ∧
        (∀ area, area ∈ graph.areas ↔
          ∃ table ∈ graph.tables, (table.key.db, table.key.schema) = area) ∧
        (graph.areas.flatMap graph.tablesIn).Perm graph.tables) ∧
      Made graph.referredColumns (Diagram.DrawsAll graph overview)
        (Diagram.ofGraph? graph overview) ∧
      Made (locations graph) (ListsAll graph) (documentation? graph stamp) := by
  refine ⟨⟨graph.nodup_areas, fun area => Graph.mem_areas_iff, graph.flatMap_tablesIn⟩, ?_, ?_⟩
  · exact made_showing (Diagram.drawsAll_ofGraph graph overview)
  · exact made_showing (listsAll_documentation graph stamp)

/-- A source whose place cannot be written keeps the summary from being made, and the diagrams are
made all the same. -/
theorem no_summary_of_overlongGraph :
    (∃ files, Diagram.ofGraph? overlongGraph true = .ok files) ∧
      ¬ ∃ summary, documentation? overlongGraph ⟨⟨2024, 1, 2⟩, 3, 4, 5, 0, some 0⟩ = .ok summary ∧
        ListsAll overlongGraph summary := by
  constructor
  · exact ⟨_, showing_of_writable allWritable_nil⟩
  · rintro ⟨summary, made, _⟩
    exact not_allWritable_locations (showing_eq_ok_iff.mp made).1

end SchemaAtlas.Site
