import SchemaAtlas.Proofs.Structure.Examinable
import Mathlib.Data.List.Nodup

/-! # Columns that are told apart

Beyond its rules, the examination finds nothing wrong with the columns of a table when there are
some and no name stands twice among them. This is read off the loops over names, tables and target
groups, one after the other; what is compared is the key of a name, and nothing but an ordinary list
is looked at. So a verdict is favourable exactly when the document keeps the rules and its columns
are told apart.
-/

namespace SchemaAtlas.Structure

open Document

section Columns

/-- There are columns, each with a name that can be looked up or none, and no name stands twice. -/
structure Distinguished (columns : List Value) : Prop where
  present : columns ≠ []
  names : ∀ column ∈ columns, HasScalarName column
  nodup : (columns.filterMap comparedName?).Nodup

/-- The columns of each table of a target group are distinguished, as far as tables and columns
stand in ordinary lists. -/
def DistinguishedTables (group : Value) : Prop :=
  ∀ table ∈ plainItems (Entries.get group.entries "tables"),
    ∀ columns, Entries.get table.entries "columns" = .list columns → Distinguished columns

variable {path : String} {position : Nat}

/-- Keys that are new behind another one are new together with it. -/
theorem fresh_cons_iff {key : Key} {keys seen : List Key} :
    (keys.Nodup ∧ ∀ other ∈ keys, other ∉ key :: seen) ∧ key ∉ seen ↔
      (key :: keys).Nodup ∧ ∀ other ∈ key :: keys, other ∉ seen := by
  have apart : (∀ other ∈ keys, other ∉ key :: seen) ↔
      key ∉ keys ∧ ∀ other ∈ keys, other ∉ seen := by
    simp only [List.mem_cons, not_or, ← List.forall_mem_ne', imp_and, forall_and]
  rw [apart, List.nodup_cons, List.forall_mem_cons]
  tauto

/-- A column with a name has nothing wrong when its name is new and those behind it have nothing
wrong beside it. -/
theorem repeatedNames_cons_eq_nil_iff {seen : List Key} {column : Value} {columns : List Value}
    {name : Scalar} (named : columnName column = .scalar name) (present : name ≠ .null) :
    repeatedNames path position seen (column :: columns) = .ok [] ↔
      repeatedNames path (position + 1) (name.key :: seen) columns = .ok [] ∧
        name.key ∉ seen := by
  rw [repeatedNames_cons_of_named named present]
  by_cases known : name.key ∈ seen <;> cases name.isWritable <;>
    cases repeatedNames path (position + 1) (name.key :: seen) columns <;>
      simp [known, Except.map]

theorem repeatedNames_eq_nil_iff {seen : List Key} {columns : List Value} :
    repeatedNames path position seen columns = .ok [] ↔
      (∀ column ∈ columns, HasScalarName column) ∧ (columns.filterMap comparedName?).Nodup ∧
        ∀ name ∈ columns.filterMap comparedName?, name ∉ seen := by
  induction columns generalizing position seen with
  | nil => simp [repeatedNames]
  | cons column columns ih =>
    rw [List.forall_mem_cons, HasScalarName]
    cases named : columnName column with
    | scalar name =>
      have here : ∃ other, Value.scalar name = .scalar other := ⟨name, rfl⟩
      rw [and_iff_right here]
      by_cases nameless : name = .null
      · have unnamed : comparedName? column = none := by rw [comparedName?, named, nameless]
        rw [List.filterMap_cons_none unnamed, repeatedNames, named, nameless]
        exact ih
      · have compared : comparedName? column = some name.key := by
          rw [comparedName?, named]
          cases name with
          | null => exact absurd rfl nameless
          | _ => rfl
        rw [repeatedNames_cons_eq_nil_iff named nameless, ih,
          List.filterMap_cons_some compared, ← fresh_cons_iff, and_assoc]
    | _ => simp [repeatedNames, named]

/-- Nothing is wrong with two things in a row when nothing is wrong with either. -/
theorem append_eq_ok_nil_iff {here there : Except Refusal (List String)} :
    (do return (← here) ++ (← there)) = Except.ok [] ↔ here = .ok [] ∧ there = .ok [] := by
  cases here with
  | error refusal => simp [bind, Except.bind]
  | ok errors => cases there <;> simp [bind, Except.bind, pure, Except.pure]

theorem columnErrors_eq_nil_iff {value : Value} :
    columnErrors path value = .ok [] ↔ ∀ columns, value = .list columns → Distinguished columns := by
  unfold columnErrors
  split
  · constructor
    · intro clean
      cases clean
    · intro distinguished
      exact absurd rfl (distinguished [] rfl).present
  · next columns present =>
    rw [repeatedNames_eq_nil_iff]
    constructor
    · rintro ⟨names, nodup, _⟩ others same
      cases same
      exact ⟨present, names, nodup⟩
    · intro distinguished
      obtain ⟨_, names, nodup⟩ := distinguished columns rfl
      exact ⟨names, nodup, by simp⟩
  · next notList =>
    exact iff_of_true rfl fun columns same => absurd same (notList columns)

theorem tableErrors_eq_nil_iff {tables : List Value} (position : Nat) :
    tableErrors path position tables = .ok [] ↔ ∀ table ∈ tables,
      ∀ columns, Entries.get table.entries "columns" = .list columns → Distinguished columns := by
  induction tables generalizing position with
  | nil => simp [tableErrors]
  | cons table tables ih =>
    rw [List.forall_mem_cons, ← ih (position + 1)]
    cases table with
    | dict entries =>
      rw [Value.entries, ← columnErrors_eq_nil_iff]
      exact append_eq_ok_nil_iff
    | _ =>
      rw [and_iff_right (by simp [Value.entries])]
      exact append_eq_ok_nil_iff.trans (and_iff_right rfl)

theorem groupErrors_eq_nil_iff {groups : List Value} (position : Nat) :
    groupErrors position groups = .ok [] ↔ ∀ group ∈ groups, DistinguishedTables group := by
  induction groups generalizing position with
  | nil => simp [groupErrors]
  | cons group groups ih =>
    rw [List.forall_mem_cons, ← ih (position + 1), groupErrors, DistinguishedTables]
    cases Entries.get group.entries "tables" with
    | list tables =>
      rw [plainItems, ← tableErrors_eq_nil_iff 0]
      exact append_eq_ok_nil_iff
    | _ =>
      rw [and_iff_right (by simp [plainItems])]
      exact append_eq_ok_nil_iff.trans (and_iff_right rfl)

end Columns

/-- A verdict is favourable when the document keeps the rules and its columns are told apart. -/
theorem valid_iff_admits {document : Entries} {verdict : Verdict}
    (examined : examine (.dict document) = .ok verdict) :
    verdict.valid = true ↔ documentRule.Admits (.dict document) ∧
      ∀ group ∈ plainItems (document.get "targets"), DistinguishedTables group := by
  rw [examine_dict] at examined
  split at examined
  · cases examined
  · rw [← groupErrors_eq_nil_iff 0]
    cases told : groupErrors 0 (plainItems (document.get "targets")) with
    | error refusal =>
      rw [told] at examined
      cases examined
    | ok own =>
      rw [told] at examined
      cases examined
      rw [Verdict.on, Bool.and_eq_true, List.isEmpty_iff, List.isEmpty_iff, Except.ok.injEq]
      rfl

end SchemaAtlas.Structure
