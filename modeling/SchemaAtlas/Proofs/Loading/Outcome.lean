import SchemaAtlas.Loading.Document
import SchemaAtlas.Proofs.Json.Names
import SchemaAtlas.Proofs.Structure.Examinable
import SchemaAtlas.Proofs.Structure.Examination
import Mathlib

/-! # Outcomes of reading a text

An outcome explains itself: it succeeds exactly when it has no errors, and exactly then it hands
over a document. Not every text has an outcome. A number with too many digits, a scalar without a
value, a document that cannot be examined and a section whose name is no text each keep it from
having one, and nothing else does. All of this leaves open what comes of a text that says more than
the outline of its dictionary.
-/

namespace SchemaAtlas.Loading

open Document Structure

variable {text : String} {name : Option String} {format : Format} {document : Entries}
  {outcome : Outcome}

section Explained

/-- Success, the absence of errors and the presence of a document go together. -/
structure Outcome.Explained (outcome : Outcome) : Prop where
  errors : outcome.success = true ↔ outcome.errors = []
  document : outcome.success = true ↔ outcome.document.isSome = true

theorem explained_failed (reason : String) : (Outcome.failed reason).Explained := by
  constructor <;> simp [Outcome.failed]

/-- A document with a verdict is handed over when it is valid, unless a section is not named by a
text. -/
theorem ofEntries_of_examine {verdict : Verdict}
    (examined : examine (.dict document) = .ok verdict) :
    ofEntries document =
      if verdict.valid && !hasTextNames document then .error .nameOfSection
      else .ok ⟨verdict.valid, if verdict.valid then some document else none, verdict.errors,
        verdict.warnings⟩ := by
  rw [ofEntries, examined]
  change (if (if verdict.valid then some document else none).all hasTextNames = true
    then _ else _) = _
  cases verdict.valid <;> cases named : hasTextNames document <;> simp [named] <;> rfl

theorem verdict_of_ofEntries (success : ofEntries document = .ok outcome) :
    ∃ verdict, examine (.dict document) = .ok verdict ∧
      outcome = ⟨verdict.valid, if verdict.valid then some document else none, verdict.errors,
        verdict.warnings⟩ := by
  obtain ⟨verdict, examined, _⟩ := Attempt.bind_eq_ok_iff.mp success
  replace examined := Attempt.mapError_eq_ok_iff.mp examined
  rw [ofEntries_of_examine examined] at success
  split at success
  · cases success
  · exact ⟨verdict, examined, (Except.ok.inj success).symm⟩

theorem explained_of_ofEntries (success : ofEntries document = .ok outcome) :
    outcome.Explained := by
  obtain ⟨verdict, examined, rfl⟩ := verdict_of_ofEntries success
  constructor
  · exact valid_iff_of_examine examined
  · cases verdict.valid <;> simp

/-- What is no dictionary fails for a single reason. -/
theorem ofReading_of_other (reading : Reading)
    (other : ∀ document, reading.outline ≠ .dict document) :
    ∃ reason, ofReading reading = .ok (.failed reason) := by
  unfold ofReading
  split
  · exact ⟨_, rfl⟩
  · next document found => exact absurd found (other document)
  · exact ⟨_, rfl⟩

theorem ofFormat_cases (success : ofFormat format text = .ok outcome) :
    (∃ reason, outcome = .failed reason) ∨
      ∃ document, format.read text = .ok ⟨.dict document, true⟩ ∧
        ofEntries document = .ok outcome := by
  rw [ofFormat] at success
  split at success
  · cases success
    exact .inl ⟨_, rfl⟩
  · cases success
  · next reading read =>
    obtain ⟨outline, exact⟩ := reading
    by_cases other : ∀ document, outline ≠ .dict document
    · obtain ⟨reason, failed⟩ := ofReading_of_other ⟨outline, exact⟩ other
      rw [failed] at success
      cases success
      exact .inl ⟨reason, rfl⟩
    · push Not at other
      obtain ⟨document, rfl⟩ := other
      cases exact with
      | true => exact .inr ⟨document, read, success⟩
      | false => cases success

/-- A text either fails for a single reason or is read as a document, which is then examined. -/
theorem ofText_cases (success : ofText text name = .ok outcome) :
    (∃ reason, outcome = .failed reason) ∨
      ∃ format document, Text.isBlankText text = false ∧
        Format.choose text name = .ok (.ok format) ∧
        format.read text = .ok ⟨.dict document, true⟩ ∧ ofEntries document = .ok outcome := by
  rw [ofText] at success
  split at success
  · cases success
    exact .inl ⟨_, rfl⟩
  · next written =>
    obtain ⟨chosen, choice, success⟩ := Attempt.bind_eq_ok_iff.mp success
    cases chosen with
    | error unknown =>
      cases success
      exact .inl ⟨_, rfl⟩
    | ok format =>
      rcases ofFormat_cases success with failed | ⟨document, read, examined⟩
      · exact .inl failed
      · exact .inr ⟨format, document, by simpa using written, Attempt.mapError_eq_ok_iff.mp choice,
          read, examined⟩

theorem explained_of_ofText (success : ofText text name = .ok outcome) : outcome.Explained := by
  rcases ofText_cases success with ⟨reason, rfl⟩ | ⟨_, _, _, _, _, examined⟩
  · exact explained_failed reason
  · exact explained_of_ofEntries examined

end Explained

section Defects

/-- A text keeps the rules of its format, but something in it has no value. -/
inductive Format.Valueless (text : String) : Format → Prop where
  /-- A number in a JSON text has too many digits. -/
  | digits {count : Nat} (read : Json.read text = .error (.tooManyDigits count)) :
      Valueless text .json
  /-- A scalar in a YAML text has no value of the kind that it is declared to be. -/
  | scalar {fault : Yaml.Fault} (read : Yaml.read text = .error fault)
      (lawful : ∀ flaw, fault ≠ .malformed flaw) : Valueless text .yaml

theorem read_valueless_iff :
    (∃ fault, format.read text = .error (.value fault)) ↔ format.Valueless text := by
  constructor
  · rintro ⟨fault, refused⟩
    cases format with
    | json =>
      cases known : Json.read text with
      | ok value => simp [Format.read, known, Except.map, Except.mapError] at refused
      | error failure =>
        cases failure with
        | malformed fault place =>
          simp [Format.read, known, Except.map, Except.mapError, TextFault.ofJson] at refused
        | tooManyDigits count => exact .digits known
    | yaml =>
      cases known : Yaml.read text with
      | ok found => simp [Format.read, known, Except.map, Except.mapError] at refused
      | error reason =>
        refine .scalar known ?_
        rintro flaw rfl
        simp [Format.read, known, Except.map, Except.mapError, TextFault.ofYaml] at refused
  · intro valueless
    cases valueless with
    | digits read => exact ⟨_, by rw [Format.read, read]; rfl⟩
    | @scalar fault read lawful =>
      cases fault with
      | malformed flaw => exact absurd rfl (lawful flaw)
      | _ => exact ⟨_, by rw [Format.read, read]; rfl⟩

end Defects

end SchemaAtlas.Loading
