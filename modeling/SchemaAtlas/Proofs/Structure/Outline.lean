import SchemaAtlas.Proofs.Structure.Rule
import SchemaAtlas.Structure.Examination

/-! # Outlines lose no finding

The lines of an outline are those of the findings that it was made from, each as often as it was
found; only their order may differ. This needs that every finding stands below the document, which
holds of all that is found about a dictionary. So an outline has no lines only if there were no
findings.
-/

namespace SchemaAtlas.Structure

open Document

namespace Outline

variable {wording : String} {path : List Step}

theorem lines_single (somewhere : path ≠ []) (place : String) :
    (single wording path).lines place = [path.foldl Step.below place ++ ": " ++ wording] := by
  induction path generalizing place with
  | nil => contradiction
  | cons step rest ih =>
    cases rest with
    | nil => rfl
    | cons next rest =>
      have below := ih (List.cons_ne_nil next rest) (step.below place)
      simp [single, lines, below]

theorem add_beside {step other : Step} {rest : List Step} {own : List String}
    {inner others : Outline} (differs : other ≠ step) :
    (part other own inner others).add wording (step :: rest) =
      part other own inner (others.add wording (step :: rest)) := by
  cases rest <;> simp [add, differs]

/-- A wording added somewhere makes one line more, whatever else is there already. -/
theorem lines_add (somewhere : path ≠ []) (outline : Outline) (place : String) :
    ((outline.add wording path).lines place).Perm
      ((path.foldl Step.below place ++ ": " ++ wording) :: outline.lines place) := by
  induction outline generalizing place path with
  | empty => rw [add, lines_single somewhere, lines]
  | part other own inner others below beside =>
    cases path with
    | nil => contradiction
    | cons step rest =>
      by_cases same : other = step
      · subst same
        cases rest with
        | nil =>
          simp only [add, if_true, lines, List.map_append, List.append_assoc]
          exact List.perm_middle
        | cons next rest =>
          have deeper := below (List.cons_ne_nil next rest) (other.below place)
          simp only [add, if_true, lines, List.append_assoc]
          exact ((deeper.append_right _).append_left _).trans List.perm_middle
      · rw [add_beside same, lines, lines]
        have further := beside (List.cons_ne_nil step rest) place
        exact (further.append_left _).trans List.perm_middle

/-- An outline has one line for each finding. -/
theorem lines_ofFindings {findings : List Finding}
    (somewhere : ∀ finding ∈ findings, finding.path ≠ []) (place : String) :
    ((ofFindings findings).lines place).Perm (findings.map (Finding.line place)) := by
  suffices ∀ outline : Outline,
      ((findings.foldl (fun outline finding => outline.add finding.breach.message finding.path)
        outline).lines place).Perm (findings.map (Finding.line place) ++ outline.lines place) by
    simpa [lines, ofFindings] using this empty
  induction findings with
  | nil => exact fun outline => .refl _
  | cons finding findings ih =>
    intro outline
    obtain ⟨here, behind⟩ := List.forall_mem_cons.mp somewhere
    have added : ((outline.add finding.breach.message finding.path).lines place).Perm
        (finding.line place :: outline.lines place) := lines_add here outline place
    exact ((ih behind _).trans (added.append_left _)).trans List.perm_middle

theorem lines_ofFindings_eq_nil_iff {findings : List Finding}
    (somewhere : ∀ finding ∈ findings, finding.path ≠ []) (place : String) :
    (ofFindings findings).lines place = [] ↔ findings = [] := by
  rw [← List.perm_nil, (lines_ofFindings somewhere place).congr_left, List.perm_nil,
    List.map_eq_nil_iff]

end Outline

section Document

theorem path_of_mem_checkFields {fields : List (String × Bool × Rule)} {value : Value}
    {finding : Finding} (member : finding ∈ checkFields fields value) : finding.path ≠ [] := by
  induction fields with
  | nil => simp [checkFields] at member
  | cons field fields ih =>
    obtain ⟨name, required, rule⟩ := field
    rw [checkFields] at member
    rcases List.mem_append.mp member with here | behind
    · split at here
      · obtain ⟨inner, _, rfl⟩ := List.mem_map.mp here
        exact List.cons_ne_nil _ _
      · split at here
        · rw [List.mem_singleton.mp here]
          exact List.cons_ne_nil _ _
        · cases here
    · exact ih behind

/-- What is found about a dictionary stands below it. -/
theorem path_of_mem_check {fields : List (String × Bool × Rule)} {entries : Entries}
    {finding : Finding} (member : finding ∈ (Rule.record fields).check (.dict entries)) :
    finding.path ≠ [] := by
  have fieldsOnly : (Rule.record fields).check (.dict entries) =
      checkFields fields (.dict entries) := by
    simp [Rule.record, Rule.check, checkItems, Kind.holds]
  rw [fieldsOnly] at member
  exact path_of_mem_checkFields member

end Document

end SchemaAtlas.Structure
