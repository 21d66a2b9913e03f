import SchemaAtlas.Proofs.Schema.Readable

/-! # Valid documents that can be read

The rule for documents leaves table-level foreign keys open: they are dictionaries, and nothing is
said about what is in them. Reading walks through their columns, looks each one up, and indexes the
columns they refer to. A foreign key is linkable when all of that can be done, and a valid document
whose foreign keys are linkable can be read.
-/

namespace SchemaAtlas.Schema

open Document Structure

/-- Whether a value has an item or null at every position. -/
def isIndexable : Value → Bool
  | .list _ => true
  | .tuple _ => true
  | .text _ => true
  | .scalar (.bytes _) => true
  | _ => false

/-- Whether a table-level foreign key can be applied: it refers to nothing, or its columns can be
looked up and those it refers to be indexed. -/
def isLinkable (declaration : Entries) : Bool :=
  match declaration.get "references" with
  | .dict references =>
      namesColumns (declaration.get "columns") &&
        isIndexable (orEmpty (Entries.get references "columns"))
  | _ => true

section Tables

variable {raw : Entries}

theorem hasPosition_of_isIndexable {value : Value} (indexable : isIndexable value = true)
    (position : Nat) : hasPosition value position = true := by
  unfold isIndexable at indexable
  split at indexable
  all_goals first | rfl | contradiction

/-- A claim refers to the columns of a foreign key with a reference. -/
theorem exists_reference_of_claim {claim : Claim} (member : claim ∈ claims raw) :
    ∃ entries references, .dict entries ∈ itemsOf (raw.get "foreign_keys") ∧
      Entries.get entries "references" = .dict references ∧
      claim.referred = orEmpty (Entries.get references "columns") := by
  obtain ⟨declaration, inside, member⟩ := List.mem_flatMap.mp member
  cases declaration with
  | dict entries =>
    cases held : Entries.get entries "references" with
    | dict references =>
      simp only [claimsOf, held, claimsFrom] at member
      split at member
      · obtain ⟨named, _, rfl⟩ := List.mem_map.mp member
        exact ⟨entries, references, inside, held, rfl⟩
      · cases member
    | _ => simp [claimsOf, held] at member
  | _ => cases member

/-- An admitted table can be read when its foreign keys are linkable: its primary key is a list of
names. -/
theorem readableTable_of_linkable (admitted : tableRule.Admits (.dict raw))
    (linkable : ∀ declaration ∈ listed (raw.get "foreign_keys"), isLinkable declaration = true) :
    ReadableTable raw := by
  have columns : (Rule.listOf columnRule).Admits (raw.get "columns") :=
    required_of_record admitted (by simp)
  have primary : (Rule.listOf (.of [.string])).Admits (raw.get "primary_key") ∨
      raw.get "primary_key" = .null := optional_of_record admitted (by simp)
  have foreign : (Rule.listOf (.record [])).Admits (raw.get "foreign_keys") ∨
      raw.get "foreign_keys" = .null := optional_of_record admitted (by simp)
  have walked := walk_of_optional foreign
  have followed : ∀ entries references, .dict entries ∈ itemsOf (raw.get "foreign_keys") →
      Entries.get entries "references" = .dict references →
        namesColumns (Entries.get entries "columns") = true ∧
          isIndexable (orEmpty (Entries.get references "columns")) = true := by
    intro entries references member held
    rw [itemsOf_of_walk walked] at member
    have here := linkable entries (List.mem_map.mpr ⟨_, member, rfl⟩)
    rw [isLinkable, held] at here
    exact Bool.and_eq_true_iff.mp here
  constructor
  · exact exists_walk_iff.mp ⟨_, walk_of_admits columns⟩
  · exact exists_walk_iff.mp ⟨_, walk_of_optional primary⟩
  · rw [itemsOf_of_walk (walk_of_optional primary)]
    rcases primary with there | missing
    · intro name member
      obtain ⟨s, rfl⟩ := exists_text_of_of ((items_of_listOf there).2 name member)
      rfl
    · simp [missing, listItems]
  · exact exists_walk_iff.mp ⟨_, walked⟩
  · intro entries references member held
    exact namesColumns_iff_walkable.mp (followed entries references member held).1
  · intro column _ _ claim first
    obtain ⟨entries, references, member, held, referred⟩ :=
      exists_reference_of_claim (List.mem_of_find?_eq_some first)
    rw [referred]
    exact hasPosition_of_isIndexable (followed entries references member held).2 _

end Tables

section Documents

variable {document : Entries} (valid : Valid (.dict document))

include valid

/-- A valid document whose foreign keys are linkable is readable. -/
theorem readable_of_linkable
    (linkable : ∀ raw ∈ rawTables document, ∀ declaration ∈ raw.foreignKeys,
      isLinkable declaration = true) :
    Readable document := by
  have tables : ∀ group ∈ listedEntries (document.get "targets"),
      group ∈ listed (document.get "targets") ∧
        (Rule.listOf tableRule).Admits (group.get "tables") := by
    intro group member
    have inside := mem_listed_of_mem_listedEntries member
    exact ⟨inside, required_of_record (valid.group inside) (by simp)⟩
  constructor
  · intro group member
    exact exists_walk_iff.mp ⟨_, walk_of_admits (tables group member).2⟩
  · intro raw member
    obtain ⟨group, there, member⟩ := List.mem_flatMap.mp member
    obtain ⟨inside, admitted⟩ := tables group there
    obtain ⟨entries, named, rfl⟩ := List.mem_map.mp member
    rw [itemsOf_of_walk (walk_of_admits admitted), mem_namedEntries_iff] at named
    obtain ⟨own, below, ⟨⟩⟩ := List.mem_map.mp named.1
    exact readableTable_of_linkable ((listed_of_admits admitted).2 entries below)
      (linkable _ (mem_rawTables inside below))
  · intro entries member
    have below : entries ∈ rawMappings document := by
      refine List.mem_map.mpr ⟨.dict entries, ?_, rfl⟩
      unfold listedItems at member
      split at member
      · next items list => rwa [list]
      · cases member
    have tags : (Rule.listOf (.of [.string])).Admits (Entries.get entries "tags") ∨
        Entries.get entries "tags" = .null := optional_of_record (valid.mapping below) (by simp)
    exact exists_walk_iff.mp ⟨_, walk_of_optional tags⟩

/-- A valid document whose foreign keys are linkable can be read. -/
theorem exists_ofDocument (fallback : String)
    (linkable : ∀ raw ∈ rawTables document, ∀ declaration ∈ raw.foreignKeys,
      isLinkable declaration = true) :
    ∃ graph, Graph.ofDocument? fallback (.dict document) = .ok graph :=
  (exists_graph_iff_readable fallback (.dict document)).mpr (readable_of_linkable valid linkable)

end Documents

end SchemaAtlas.Schema
