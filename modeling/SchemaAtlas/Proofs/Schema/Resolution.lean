import SchemaAtlas.Proofs.Schema.Reference

/-! # Names that stand for tables

A name stands for the declared table beside the context, or, when there is none, for the first
declared table of that name. A base stands for what the first of its names stands for that is the
name of a table at all, so a table beside the context never comes before one that an earlier name
stands for, wherever that one is declared.
-/

namespace SchemaAtlas.Schema.Graph

/-- Some declared table has a given name. -/
def Names (graph : Graph) (name : String) : Prop :=
  ∃ key ∈ graph.tables.map Table.key, key.table = name

/-- What a name stands for: a declared table of that name, the one beside the context if it is
declared, and otherwise the first one. -/
structure StandsFor (graph : Graph) (context : TableKey) (name : String) (key : TableKey) : Prop where
  declared : key ∈ graph.tables.map Table.key
  named : key.table = name
  beside : context.beside name ∈ graph.tables.map Table.key → key = context.beside name
  first : context.beside name ∉ graph.tables.map Table.key →
    (graph.tables.map Table.key).find? (fun other => other.table = name) = some key

variable {graph : Graph} {context key other : TableKey} {name base reference : String}

/-- A name stands for one table at most. -/
theorem StandsFor.unique (stands : graph.StandsFor context name key)
    (stands' : graph.StandsFor context name other) : key = other := by
  by_cases near : context.beside name ∈ graph.tables.map Table.key
  · rw [stands.beside near, stands'.beside near]
  · exact Option.some.inj ((stands.first near).symm.trans (stands'.first near))

/-- Without a table beside the context, a name means the first declared table of that name. -/
theorem tableNamed?_of_not_beside (far : context.beside name ∉ graph.tables.map Table.key) :
    graph.tableNamed? context name =
      (graph.tables.map Table.key).find? fun other => other.table = name := by
  have apart : (graph.keysNamed name).find? (fun other =>
      other.db == context.db && other.schema == context.schema) = none := by
    refine List.find?_eq_none.mpr fun other member near => far ?_
    obtain ⟨declared, named⟩ := mem_keysNamed.mp member
    simp only [Bool.and_eq_true, beq_iff_eq] at near
    have same : other = context.beside name := TableKey.ext near.1 near.2 named
    exact same ▸ declared
  rw [tableNamed?, preferLocal, apart]
  exact List.head?_filter

theorem tableNamed?_eq_some_iff :
    graph.tableNamed? context name = some key ↔ graph.StandsFor context name key := by
  have sound {found : TableKey} (success : graph.tableNamed? context name = some found) :
      graph.StandsFor context name found := by
    obtain ⟨declared, named, nearest⟩ := tableNamed?_cases success
    refine ⟨declared, named, fun near => nearest.resolve_right (not_not_intro near), fun far => ?_⟩
    rw [← tableNamed?_of_not_beside far, success]
  refine ⟨sound, fun stands => ?_⟩
  cases success : graph.tableNamed? context name with
  | none => exact absurd stands.named (tableNamed?_eq_none_iff.mp success key stands.declared)
  | some found => rw [(sound success).unique stands]

theorem isSome_tableNamed?_iff : (graph.tableNamed? context name).isSome ↔ graph.Names name := by
  rw [Option.isSome_iff_ne_none, ne_eq, tableNamed?_eq_none_iff, Names]
  push Not
  rfl

theorem resolve?_of_bare (bare : '.' ∉ reference.toList) :
    graph.resolve? context reference = graph.tableNamed? context reference := by
  rw [resolve?, Text.pieces_of_not_mem bare]
  rfl

theorem inferParent?_of_nonempty (nonempty : base ≠ "") :
    graph.inferParent? context base = (parentNames base).findSome? (graph.tableNamed? context) :=
  if_neg nonempty

/-- A base stands for what the first of its names stands for that is the name of a table. -/
theorem inferParent?_eq_some_iff (nonempty : base ≠ "") :
    graph.inferParent? context base = some key ↔
      ∃ earlier name later, parentNames base = earlier ++ name :: later ∧
        (∀ other ∈ earlier, ¬ graph.Names other) ∧ graph.StandsFor context name key := by
  rw [inferParent?_of_nonempty nonempty, List.findSome?_eq_some_iff]
  refine exists₃_congr fun earlier name later => and_congr_right fun _ => ?_
  rw [tableNamed?_eq_some_iff, and_comm]
  refine and_congr_left fun _ => forall₂_congr fun other _ => ?_
  rw [← isSome_tableNamed?_iff, Option.not_isSome_iff_eq_none]

theorem isSome_inferParent?_iff (nonempty : base ≠ "") :
    (graph.inferParent? context base).isSome ↔ ∃ name ∈ parentNames base, graph.Names name := by
  rw [inferParent?_of_nonempty nonempty, List.findSome?_isSome_iff]
  exact exists_congr fun name => and_congr_right fun _ => isSome_tableNamed?_iff

/-- What a base stands for is declared, also when it stands for nothing because it is empty. -/
theorem declared_of_inferParent? (success : graph.inferParent? context base = some key) :
    key ∈ graph.tables.map Table.key := by
  by_cases empty : base = ""
  · rw [inferParent?, if_pos empty] at success
    cases success
  · obtain ⟨_, _, _, _, _, stands⟩ := (inferParent?_eq_some_iff empty).mp success
    exact stands.declared

/-- References and bases stand for declared tables alone. A reference without a point stands for a
table just when there is one of its name, and a base just when there is one of any of its names: the
first such name decides, and a table beside the context comes first for this name only. -/
theorem references_resolved (graph : Graph) (context : TableKey) :
    (∀ reference key, graph.resolve? context reference = some key →
        key ∈ graph.tables.map Table.key) ∧
      (∀ base key, graph.inferParent? context base = some key →
        key ∈ graph.tables.map Table.key) ∧
      (∀ reference, '.' ∉ reference.toList →
        ((graph.resolve? context reference).isSome ↔ graph.Names reference) ∧
          ∀ key, graph.resolve? context reference = some key ↔
            graph.StandsFor context reference key) ∧
      ∀ base, base ≠ "" →
        ((graph.inferParent? context base).isSome ↔
            ∃ name ∈ [base, "dim_" ++ base, base ++ "s", "dim_" ++ base ++ "s"],
              graph.Names name) ∧
          ∀ key, graph.inferParent? context base = some key ↔
            ∃ earlier name later,
              [base, "dim_" ++ base, base ++ "s", "dim_" ++ base ++ "s"] =
                earlier ++ name :: later ∧
              (∀ other ∈ earlier, ¬ graph.Names other) ∧ graph.StandsFor context name key := by
  refine ⟨?_, ?_, ?_, ?_⟩
  · exact fun reference key success => (resolve?_cases success).1
  · exact fun base key success => declared_of_inferParent? success
  · intro reference bare
    rw [resolve?_of_bare bare]
    exact ⟨isSome_tableNamed?_iff, fun key => tableNamed?_eq_some_iff⟩
  · intro base nonempty
    exact ⟨isSome_inferParent?_iff nonempty, fun key => inferParent?_eq_some_iff nonempty⟩

/-- A graph in which a base has two names of tables: the earlier one of a table elsewhere, the later
one of tables elsewhere and beside the orders. -/
def usersGraph : Graph where
  project := ""
  owners := []
  sources := []
  tables := [⟨⟨"shop", "archive", "users"⟩, [], none, none, List.nodup_nil⟩,
    ⟨⟨"shop", "archive", "dim_user"⟩, [], none, none, List.nodup_nil⟩,
    ⟨⟨"shop", "live", "users"⟩, [], none, none, List.nodup_nil⟩]
  mappings := []
  redeclared := []
  ids_nodup := List.nodup_nil
  keys_nodup := by decide

/-- The users beside the orders are meant by their own name, but not by the base, which has an
earlier name. -/
theorem users_of_orders :
    '.' ∉ "users".toList ∧ "user" ≠ "" ∧
      usersGraph.resolve? ⟨"shop", "live", "orders"⟩ "users" = some ⟨"shop", "live", "users"⟩ ∧
      usersGraph.inferParent? ⟨"shop", "live", "orders"⟩ "user" =
        some ⟨"shop", "archive", "dim_user"⟩ := by
  have bare : '.' ∉ "users".toList := by decide
  have nonempty : "user" ≠ "" := by decide
  obtain ⟨_, _, references, bases⟩ := references_resolved usersGraph ⟨"shop", "live", "orders"⟩
  refine ⟨bare, nonempty, ((references _ bare).2 _).mpr ?_, ((bases _ nonempty).2 _).mpr ?_⟩
  · exact ⟨by decide, rfl, fun _ => rfl, fun far => absurd (by decide) far⟩
  · refine ⟨["user"], "dim_user", ["users", "dim_users"], by decide, ?_, ?_⟩
    · simp only [List.forall_mem_singleton, Names]
      decide
    · exact ⟨by decide, rfl, fun near => absurd near (by decide), fun _ => by decide⟩

end SchemaAtlas.Schema.Graph
