import SchemaAtlas.Schema.Reference
import SchemaAtlas.Proofs.Keyed
import SchemaAtlas.Proofs.Text.Split

/-! # What references mean

A reference means a declared table or nothing. A bare name means the table of that name beside the
referring one, and another table of that name only when there is none beside it. A longer reference
spells the last parts of the key that it means. Keys whose parts are neither empty nor hold points
can be read off their qualified names.
-/

namespace SchemaAtlas.Schema

namespace TableKey

/-- The table of some name in the database and the schema of another. -/
def beside (key : TableKey) (name : String) : TableKey := { key with table := name }

/-- The parts of a key are names: none is empty, and none holds a point. -/
def Plain (key : TableKey) : Prop :=
  ∀ part ∈ [key.db, key.schema, key.table], part ≠ "" ∧ '.' ∉ part.toList

instance (key : TableKey) : Decidable key.Plain :=
  inferInstanceAs
    (Decidable (∀ part ∈ [key.db, key.schema, key.table], part ≠ "" ∧ '.' ∉ part.toList))

variable {key other : TableKey}

theorem Plain.qualified_eq (plain : key.Plain) :
    key.qualified = Text.joined "." [key.db, key.schema, key.table] := by
  rw [qualified, Text.filter_nonempty fun part member => (plain part member).1]

theorem Plain.pieces_qualified (plain : key.Plain) :
    Text.pieces '.' key.qualified = [key.db, key.schema, key.table] := by
  rw [plain.qualified_eq]
  exact Text.pieces_joined (List.cons_ne_nil _ _) fun part member => (plain part member).2

/-- Plain keys have different qualified names. -/
theorem Plain.qualified_inj (plain : key.Plain) (plain' : other.Plain) :
    key.qualified = other.qualified ↔ key = other := by
  refine ⟨fun same => ?_, fun same => same ▸ rfl⟩
  have pieces := plain.pieces_qualified
  rw [same, plain'.pieces_qualified] at pieces
  simp only [List.cons.injEq, and_true] at pieces
  exact TableKey.ext pieces.1.symm pieces.2.1.symm pieces.2.2.symm

end TableKey

namespace Graph

variable {graph : Graph} {context key found : TableKey} {name reference : String}

theorem isSome_table?_iff : (graph.table? key).isSome ↔ key ∈ graph.tables.map Table.key :=
  Keyed.isSome_find?_iff

theorem declaredKey?_eq_some_iff : graph.declaredKey? key = some found ↔
    key = found ∧ found ∈ graph.tables.map Table.key := by
  rw [declaredKey?, Option.map_eq_some_iff]
  constructor
  · rintro ⟨table, held, rfl⟩
    obtain ⟨member, same⟩ := Keyed.key_of_find? held
    exact ⟨same.symm, List.mem_map_of_mem member⟩
  · rintro ⟨rfl, declared⟩
    obtain ⟨table, held⟩ := Option.isSome_iff_exists.mp (isSome_table?_iff.mpr declared)
    exact ⟨table, held, (Keyed.key_of_find? held).2⟩

theorem mem_keysNamed : key ∈ graph.keysNamed name ↔
    key ∈ graph.tables.map Table.key ∧ key.table = name := by
  simp [keysNamed]

/-- A bare name means a table of that name, the one beside the context if it is declared. -/
theorem tableNamed?_cases (success : graph.tableNamed? context name = some found) :
    found ∈ graph.tables.map Table.key ∧ found.table = name ∧
      (found = context.beside name ∨ context.beside name ∉ graph.tables.map Table.key) := by
  unfold tableNamed? preferLocal at success
  split at success
  · next key held =>
    cases success
    obtain ⟨declared, named⟩ := mem_keysNamed.mp (List.mem_of_find?_eq_some held)
    have near := List.find?_some held
    simp only [Bool.and_eq_true, beq_iff_eq] at near
    exact ⟨declared, named, .inl (TableKey.ext near.1 near.2 named)⟩
  · next none =>
    obtain ⟨declared, named⟩ := mem_keysNamed.mp (List.mem_of_head? success)
    refine ⟨declared, named, .inr fun near => ?_⟩
    have listed : context.beside name ∈ graph.keysNamed name := mem_keysNamed.mpr ⟨near, rfl⟩
    simpa [TableKey.beside] using List.find?_eq_none.mp none _ listed

theorem tableNamed?_eq_none_iff : graph.tableNamed? context name = none ↔
    ∀ key ∈ graph.tables.map Table.key, key.table ≠ name := by
  have missing : graph.keysNamed name = [] ↔
      ∀ key ∈ graph.tables.map Table.key, key.table ≠ name := by
    simp [keysNamed, List.filter_eq_nil_iff]
  rw [← missing, tableNamed?, preferLocal]
  constructor
  · intro none
    split at none
    · cases none
    · exact List.head?_eq_none_iff.mp none
  · intro empty
    rw [empty]
    rfl

/-- A bare name means the table of that name beside the context, if one is declared there. -/
theorem tableNamed?_of_beside (declared : context.beside name ∈ graph.tables.map Table.key) :
    graph.tableNamed? context name = some (context.beside name) := by
  cases success : graph.tableNamed? context name with
  | none => exact absurd rfl (tableNamed?_eq_none_iff.mp success _ declared)
  | some found =>
    obtain ⟨_, _, near⟩ := tableNamed?_cases success
    rw [near.resolve_right (not_not_intro declared)]

section Written

variable (declared : key ∈ graph.tables.map Table.key)
include declared

theorem resolve?_of_key (parts : Text.pieces '.' reference = [key.db, key.schema, key.table]) :
    graph.resolve? context reference = some key := by
  rw [resolve?, parts]
  exact declaredKey?_eq_some_iff.mpr ⟨rfl, declared⟩

theorem resolve?_of_schema (database : key.db = context.db)
    (parts : Text.pieces '.' reference = [key.schema, key.table]) :
    graph.resolve? context reference = some key := by
  rw [resolve?, parts]
  exact declaredKey?_eq_some_iff.mpr ⟨TableKey.ext database.symm rfl rfl, declared⟩

theorem resolve?_of_name (beside : key = context.beside reference)
    (parts : Text.pieces '.' reference = [reference]) :
    graph.resolve? context reference = some key := by
  subst beside
  rw [resolve?, parts]
  exact tableNamed?_of_beside declared

end Written

/-- A reference means a declared table: of its own name when it is bare, of the context's database
when it has two parts, and of its last three parts when it has more. -/
theorem resolve?_cases (success : graph.resolve? context reference = some found) :
    found ∈ graph.tables.map Table.key ∧
      ((Text.pieces '.' reference = [reference] ∧ found.table = reference ∧
          (found = context.beside reference ∨
            context.beside reference ∉ graph.tables.map Table.key)) ∨
        (Text.pieces '.' reference = [found.schema, found.table] ∧ found.db = context.db) ∨
        ∃ before, Text.pieces '.' reference = before ++ [found.db, found.schema, found.table]) := by
  unfold resolve? at success
  split at success
  · next table schema db before parts =>
    obtain ⟨rfl, declared⟩ := declaredKey?_eq_some_iff.mp success
    refine ⟨declared, .inr (.inr ⟨before.reverse, ?_⟩)⟩
    simpa using congrArg List.reverse parts
  · next table schema parts =>
    obtain ⟨rfl, declared⟩ := declaredKey?_eq_some_iff.mp success
    refine ⟨declared, .inr (.inl ⟨?_, rfl⟩)⟩
    simpa using congrArg List.reverse parts
  · next long short =>
    obtain ⟨declared, named⟩ := tableNamed?_cases success
    refine ⟨declared, .inl ⟨?_, named⟩⟩
    cases parts : (Text.pieces '.' reference).reverse with
    | nil => exact absurd (List.reverse_eq_nil_iff.mp parts) (Text.pieces_ne_nil '.' reference)
    | cons part more =>
      cases more with
      | nil => exact Text.pieces_of_singleton (List.reverse_eq_iff.mp parts)
      | cons schema rest =>
        cases rest with
        | nil => exact (short _ _ parts).elim
        | cons db before => exact (long _ _ _ _ parts).elim

end Graph

end SchemaAtlas.Schema
