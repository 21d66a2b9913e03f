import SchemaAtlas.Proofs.Document.Entries

/-! # Values that texts hold

The only tuples that a text can hold are the pairs of an ordered mapping, and those are the items of
a list. A value is legible when no dictionary inside it has a tuple for an entry.
-/

namespace SchemaAtlas.Document

/-- Whether a value is a tuple. -/
def Value.isTuple : Value → Bool
  | .tuple _ => true
  | _ => false

mutual

/-- Whether no dictionary inside a value has a tuple for an entry. -/
def Value.isLegible : Value → Bool
  | .scalar _ => true
  | .set _ => true
  | .list items => allLegible items
  | .tuple items => allLegible items
  | .dict entries => entriesLegible entries

/-- Whether every value of a sequence is legible. -/
def allLegible : List Value → Bool
  | [] => true
  | item :: items => item.isLegible && allLegible items

/-- Whether every entry of a dictionary is legible and none is a tuple. -/
def entriesLegible : List (Scalar × Value) → Bool
  | [] => true
  | (_, value) :: rest => value.isLegible && !value.isTuple && entriesLegible rest

end

/-- A legible value that may stand in a dictionary. -/
def Value.IsEntry (value : Value) : Prop := value.isLegible = true ∧ value.isTuple = false

theorem allLegible_iff {items : List Value} :
    allLegible items = true ↔ ∀ item ∈ items, item.isLegible = true := by
  induction items with
  | nil => simp [allLegible]
  | cons item items ih => simp [allLegible, ih]

theorem entriesLegible_iff {entries : List (Scalar × Value)} :
    entriesLegible entries = true ↔ ∀ entry ∈ entries, entry.2.IsEntry := by
  induction entries with
  | nil => simp [entriesLegible]
  | cons entry entries ih => simp [entriesLegible, Value.IsEntry, ih]

theorem isEntry_scalar (s : Scalar) : (Value.scalar s).IsEntry := ⟨rfl, rfl⟩

/-- A dictionary built from entries is legible when they are. -/
theorem isLegible_ofList {members : List (Scalar × Value)}
    (each : ∀ member ∈ members, member.2.IsEntry) :
    (Value.dict (Entries.ofList members)).isLegible = true := by
  have held : ∀ entry ∈ Entries.ofList members, True ∧ entry.2.IsEntry :=
    Entries.forall_mem_ofList (P := fun _ => True) fun member inside =>
      ⟨trivial, each member inside⟩
  exact entriesLegible_iff.mpr fun entry inside => (held entry inside).2

end SchemaAtlas.Document
