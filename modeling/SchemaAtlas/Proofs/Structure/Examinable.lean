import SchemaAtlas.Proofs.Attempt
import SchemaAtlas.Proofs.Structure.Outline

/-! # Documents that can be examined

The examination looks at anything, whatever its kind, with two exceptions. A dictionary in place of
a list may defeat the rules, and the names of columns are looked up among those before them, which
cannot be done with a list, a set or a dictionary in place of a name; a name that is found there is
shown, so it must be short enough to be written. A dictionary without either has a verdict, and the
verdict has errors exactly when it is not favourable.
-/

namespace SchemaAtlas.Structure

open Document

section Comparison

/-- The items of an ordinary list; any other value has none. -/
def plainItems : Value → List Value
  | .list items => items
  | _ => []

/-- The name of a column is missing or indivisible, so it can be looked up. -/
def HasScalarName (column : Value) : Prop := ∃ name, columnName column = .scalar name

/-- The name under which a column is compared with the others, if it has one. -/
def comparedName? (column : Value) : Option Key :=
  match columnName column with
  | .null => none
  | .scalar name => some name.key
  | _ => none

/-- The tables of a target group whose columns are compared. -/
def groupTables (group : Value) : List Value := plainItems (Entries.get group.entries "tables")

variable {path : String} {position : Nat} {seen : List Key} {column : Value} {columns : List Value}

/-- A column whose name can be looked up has the name null, or it is compared by its name. -/
theorem HasScalarName.cases (named : HasScalarName column) :
    columnName column = .null ∧ comparedName? column = none ∨
      ∃ name, columnName column = .scalar name ∧ name ≠ .null ∧
        comparedName? column = some name.key := by
  obtain ⟨name, here⟩ := named
  rw [comparedName?, here]
  cases name with
  | null => exact .inl ⟨rfl, rfl⟩
  | _ => exact .inr ⟨_, rfl, nofun, rfl⟩

/-- One step over a column with a name: when the name is known, it is shown. -/
theorem repeatedNames_cons_of_named {name : Scalar} (named : columnName column = .scalar name)
    (present : name ≠ .null) :
    repeatedNames path position seen (column :: columns) =
      if seen.contains name.key && !name.isWritable then .error .tooLong
      else (repeatedNames path (position + 1) (name.key :: seen) columns).map fun rest =>
        if seen.contains name.key then
          (itemPath (path ++ ".columns") position ++ ": duplicate column name '" ++
            name.display ++ "'") :: rest
        else rest := by
  have step : repeatedNames path position seen (column :: columns) =
      (do
        if seen.contains name.key && !name.isWritable then throw .tooLong
        let rest ← repeatedNames path (position + 1) (name.key :: seen) columns
        return if seen.contains name.key then
          (itemPath (path ++ ".columns") position ++ ": duplicate column name '" ++
            name.display ++ "'") :: rest
        else rest) := by
    rw [repeatedNames, named]
    cases name with
    | null => exact absurd rfl present
    | _ => rfl
  rw [step]
  split
  · rfl
  · cases repeatedNames path (position + 1) (name.key :: seen) columns <;> rfl

end Comparison

section Verdict

variable {document : Entries}

/-- The verdict on a document whose target groups have some errors of their own. -/
def Verdict.on (document : Entries) (own : List String) : Verdict where
  valid := (documentRule.check (.dict document)).isEmpty && own.isEmpty
  errors := (Outline.ofFindings (documentRule.check (.dict document))).lines "" ++ own
  warnings := match document.get "targets" with
    | .list groups => groupWarnings groups
    | _ => []

theorem examine_dict (document : Entries) :
    examine (.dict document) =
      if documentRule.defeatedBy (.dict document) then .error .defeated
      else (groupErrors 0 (plainItems (document.get "targets"))).map (Verdict.on document) := by
  unfold examine Verdict.on
  dsimp only
  split
  · rfl
  · cases document.get "targets" with
    | list groups => cases groupErrors 0 groups <;> rfl
    | _ => rfl

/-- A verdict is favourable exactly when it comes without errors: the lines of an outline account
for every finding, so none of them is lost on the way from the rules to the errors. -/
theorem valid_iff_of_examine {verdict : Verdict}
    (examined : examine (.dict document) = .ok verdict) :
    verdict.valid = true ↔ verdict.errors = [] := by
  rw [examine_dict] at examined
  split at examined
  · cases examined
  · cases told : groupErrors 0 (plainItems (document.get "targets")) with
    | error refusal =>
      rw [told] at examined
      cases examined
    | ok own =>
      rw [told] at examined
      cases examined
      have lines := Outline.lines_ofFindings_eq_nil_iff
        (fun finding (member : finding ∈ documentRule.check (.dict document)) =>
          path_of_mem_check member) ""
      simp only [Verdict.on, Bool.and_eq_true, List.isEmpty_iff, List.append_eq_nil_iff, lines]

end Verdict

end SchemaAtlas.Structure
