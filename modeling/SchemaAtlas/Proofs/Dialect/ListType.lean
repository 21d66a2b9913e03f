import SchemaAtlas.Proofs.Dialect.MongoDB
import SchemaAtlas.Proofs.Text.Split
import SchemaAtlas.Schema.Declaration
import Mathlib.Data.List.Find

/-! # Types of lists in validators

The type of a property is decided by the first rule with a fragment that occurs in the declared type,
and the rule for lists is the last one. So a declared list of anything is a list for the validator
only when no other rule finds a fragment in the type of its elements. Otherwise the validator demands
what it demands of a single element.
-/

namespace SchemaAtlas.Dialect.MongoDB

open Schema Document

/-- The rules in front of the one for lists. -/
def elementRules : List (List String × String) := typeRules.dropLast

/-- A fragment of a rule occurs in a declared type, in any case. -/
def Finds (rule : List String × String) (type : String) : Prop :=
  ∃ fragment ∈ rule.1, fragment.toList <:+: Text.lower type.toList

/-- Some rule in front of the one for lists finds a fragment in a declared type. -/
def DecidedByElement (type : String) : Prop := ∃ rule ∈ elementRules, Finds rule type

/-- What the rules in front of the one for lists decide. -/
def elementType? (type : String) : Option String :=
  (elementRules.find? fun rule => rule.1.any fun fragment =>
    Text.contains fragment.toList (Text.lower type.toList)).map (·.2)

section Rules

variable {rule : List String × String} {type element name : String}

theorem any_contains_iff : (rule.1.any fun fragment =>
    Text.contains fragment.toList (Text.lower type.toList)) = true ↔ Finds rule type := by
  simp only [List.any_eq_true, Text.contains_iff_infix, Finds]

theorem elementType?_eq_none_iff : elementType? type = none ↔ ¬ DecidedByElement type := by
  simp only [elementType?, Option.map_eq_none_iff, List.find?_eq_none, any_contains_iff,
    DecidedByElement, not_exists, not_and]

theorem ne_array_of_elementType? (decided : elementType? type = some name) : name ≠ "array" := by
  obtain ⟨rule, found, rfl⟩ := Option.map_eq_some_iff.mp decided
  have others : ∀ rule ∈ elementRules, rule.2 ≠ "array" := by decide
  exact others rule (List.mem_of_find?_eq_some found)

/-- The rule for lists is only asked when no rule in front of it decides. -/
theorem typeName_eq : typeName type =
    (elementType? type).getD (if (["array", "[]"].any fun fragment =>
      Text.contains fragment.toList (Text.lower type.toList)) then "array" else "string") := by
  have rules : typeRules = elementRules ++ [(["array", "[]"], "array")] := rfl
  unfold typeName elementType?
  dsimp only
  rw [rules, List.find?_append]
  cases elementRules.find? _ with
  | some rule => rfl
  | none =>
    rw [List.find?_singleton]
    split <;> rfl

end Rules

section Lists

variable {rule : List String × String} {element : String}

theorem lower_list (element : String) :
    Text.lower (element ++ "[]").toList = Text.lower element.toList ++ ['[', ']'] := by
  rw [String.toList_append, Text.lower, List.flatMap_append]
  rfl

/-- No fragment of the rules in front reaches into the brackets of a list. -/
theorem finds_list_iff (earlier : rule ∈ elementRules) :
    Finds rule (element ++ "[]") ↔ Finds rule element := by
  have wordy : ∀ rule ∈ elementRules, ∀ fragment ∈ rule.1,
      fragment.toList ≠ [] ∧ '[' ∉ fragment.toList ∧ ']' ∉ fragment.toList := by
    decide
  unfold Finds
  rw [lower_list]
  refine exists_congr fun fragment => and_congr_right fun member => ?_
  obtain ⟨nonempty, opening, closing⟩ := wordy rule earlier fragment member
  exact Text.infix_append_iff nonempty (by simp [opening, closing])

theorem elementType?_list : elementType? (element ++ "[]") = elementType? element := by
  refine congrArg (Option.map Prod.snd) (List.find?_congr fun rule earlier => ?_)
  rw [Bool.eq_iff_iff, any_contains_iff, any_contains_iff, finds_list_iff earlier]

/-- A list is of the type that its elements decide, and a list when they decide on none. -/
theorem typeName_list : typeName (element ++ "[]") = (elementType? element).getD "array" := by
  have brackets : Text.contains "[]".toList (Text.lower (element ++ "[]").toList) = true := by
    rw [Text.contains_iff_infix, lower_list]
    exact (List.suffix_append _ _).isInfix
  rw [typeName_eq, elementType?_list, if_pos]
  rw [List.any_eq_true]
  exact ⟨"[]", by simp, brackets⟩

end Lists

/-- A declared list is a list for the validator just when no rule in front of the one for lists finds
a fragment in the type of its elements. Otherwise it is what a single element is. -/
theorem list_type_iff (element : String) :
    (typeName (element ++ "[]") = "array" ↔ ¬ DecidedByElement element) ∧
      (DecidedByElement element → typeName (element ++ "[]") = typeName element) ∧
      ∀ (table : Table), ∀ column ∈ table.columns, column.type = element ++ "[]" →
        (propertyType (validator table) column.name =
            (if column.required then Value.text "array"
              else .list [.text "array", .text "null"]) ↔
          ¬ DecidedByElement element) := by
  have decision : typeName (element ++ "[]") = "array" ↔ ¬ DecidedByElement element := by
    rw [typeName_list, ← elementType?_eq_none_iff]
    cases decided : elementType? element with
    | none => simp
    | some name => simpa using ne_array_of_elementType? decided
  refine ⟨decision, fun decided => ?_, fun table column member declared => ?_⟩
  · rw [typeName_list, typeName_eq]
    cases found : elementType? element with
    | none => exact absurd decided (elementType?_eq_none_iff.mp found)
    | some name => rfl
  · rw [propertyType_validator member, typeValue, declared, ← decision]
    cases column.required <;> simp

/-- A document with a table that lists texts and lists numbers. -/
def samplesDocument : Value :=
  let record (entries : List (String × Value)) : Value := .dict (Entries.named entries)
  let column (name type : String) : Value := record [("name", .text name), ("type", .text type)]
  record [("targets", .list [record [("db", .text "lab"), ("tables", .list [
    record [("name", .text "samples"), ("columns", .list [column "labels" "TEXT[]",
      column "readings" "INTEGER[]"])]])]])]

/-- The table of that document. -/
def samplesTable : Table where
  key := ⟨"lab", "public", "samples"⟩
  columns := [⟨"labels", "TEXT[]", false, none, false, false, none, none⟩,
    ⟨"readings", "INTEGER[]", false, none, false, false, none, none⟩]
  description := none
  owner := none

/-- A list of texts is a list for the validator, but a list of numbers is a number. -/
theorem list_of_numbers_is_number :
    ∃ graph, Graph.ofDocument? "" samplesDocument = .ok graph ∧ samplesTable ∈ graph.tables ∧
      typeName "TEXT[]" = "array" ∧ typeName "INTEGER[]" = "int" ∧
      propertyType (validator samplesTable) "labels" = .list [.text "array", .text "null"] ∧
      propertyType (validator samplesTable) "readings" = .list [.text "int", .text "null"] := by
  have texts : typeName "TEXT[]" = "array" := by decide +kernel
  have numbers : typeName "INTEGER[]" = "int" := by decide +kernel
  have property (column : Column) (member : column ∈ samplesTable.columns)
      (optional : column.required = false) : propertyType (validator samplesTable) column.name =
        .list [.text (typeName column.type), .text "null"] := by
    rw [propertyType_validator member, typeValue, optional, if_neg Bool.false_ne_true]
  refine ⟨⟨"", [], [], [samplesTable], [], [], List.nodup_nil, by simp⟩, rfl, .head _, texts, numbers,
    ?_, ?_⟩
  · rw [← texts]
    exact property _ (.head _) rfl
  · rw [← numbers]
    exact property _ (.tail _ (.head _)) rfl

end SchemaAtlas.Dialect.MongoDB
