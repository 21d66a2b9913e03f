import SchemaAtlas.Loading.Document
import SchemaAtlas.Proofs.Json.Scalar
import Mathlib

/-! # Detection of formats

A text that is read as JSON is detected as JSON. When it holds a list or an object its first character
tells so. When it holds a scalar it neither starts like a document or a list in YAML nor goes on like
one: there is no line feed inside, and a minus in front is followed by a digit or a letter. So the
text is tried as JSON, and without the blanks around it it still reads.
-/

namespace SchemaAtlas.Loading

open Document Json

section Marks

variable {cs : List Char}

/-- The text of a scalar in JSON has none of the marks of YAML. -/
theorem opensYaml_of_isScalar (scalar : IsScalar cs) : Format.opensYaml cs = false := by
  have noDocument : Text.startsWith "---".toList cs = false := by
    rw [Bool.eq_false_iff, ne_eq, Text.startsWith_iff_prefix]
    rintro ⟨more, rfl⟩
    exact scalar.behind_minus.2 rfl
  have noItem : Text.startsWith "- ".toList cs = false := by
    rw [Bool.eq_false_iff, ne_eq, Text.startsWith_iff_prefix]
    rintro ⟨more, rfl⟩
    exact absurd scalar.behind_minus.1 (by decide)
  have noLine : Text.contains ['\n', '-'] (cs.take Format.headLength) = false := by
    rw [Bool.eq_false_iff, ne_eq, Text.contains_iff_infix]
    intro occurs
    exact scalar.lineFeed_not_mem (List.take_subset _ _ (occurs.subset List.mem_cons_self))
  rw [Format.opensYaml, noDocument, noItem, noLine]
  rfl

end Marks

section Detection

variable {text : String} {value : Value}

/-- Detection trims more than the reader skips, but what it trims is around the value. -/
theorem detect_of_read (readable : Json.read text = .ok value) :
    Format.detect text = .ok .json := by
  obtain ⟨before, blank, collection | alone⟩ :=
    readAll_cases (Attempt.mapError_eq_ok_iff.mp readable)
  · obtain ⟨c, behind, mark, whole⟩ := collection
    have opens : Format.opensJson (Text.trim text.toList) = true := by
      rw [whole, Format.opensJson, Text.head?_trim]
      · rcases mark with rfl | rfl <;> rfl
      · rcases mark with rfl | rfl <;> rfl
      · exact fun c member => isBlank_of_isSpace (blank c member)
    rw [Format.detect, if_pos opens]
  · obtain ⟨scalar, behind, blankBehind, form, whole, alone⟩ := alone
    have inner : Text.trim text.toList = scalar := by
      rw [whole]
      exact Text.trim_around form.trim_eq
        (fun c member => isBlank_of_isSpace (blank c member))
        fun c member => isBlank_of_isSpace (blankBehind c member)
    rw [Format.detect, inner]
    split
    · rfl
    rw [if_neg (by simp [opensYaml_of_isScalar form]), alone]

/-- A text that is read as JSON is detected as JSON, so without a named format it comes to the same as
with this one named. -/
theorem json_is_detected (readable : Json.read text = .ok value) :
    Format.detect text = .ok .json ∧
      ∀ name ∈ [none, some ""], ofText text name = ofText text (some "json") ∧
        isWellFormed text name = isWellFormed text (some "json") := by
  have detected := detect_of_read readable
  have chosen : ∀ name ∈ [none, some ""],
      Format.choose text name = Format.choose text (some "json") := by
    intro name known
    simp only [List.mem_cons, List.not_mem_nil, or_false] at known
    rcases known with rfl | rfl
    · rw [Format.choose, detected]
      rfl
    · rw [Format.choose, detected]
      rfl
  refine ⟨detected, fun name known => ⟨?_, ?_⟩⟩
  · rw [ofText, ofText, chosen name known]
  · rw [isWellFormed, isWellFormed, chosen name known]

/-- A string with the marks of YAML lists in it, and with space around it, is detected as JSON. -/
theorem json_is_detected_in_marks :
    Json.read " \n\"- a\\n- b\"\r\t" = .ok (.text "- a\n- b") ∧
      Format.detect " \n\"- a\\n- b\"\r\t" = .ok .json ∧
      ofText " \n\"- a\\n- b\"\r\t" none = ofText " \n\"- a\\n- b\"\r\t" (some "json") := by
  have readable : Json.read " \n\"- a\\n- b\"\r\t" = .ok (.text "- a\n- b") := by cbv
  obtain ⟨detected, same⟩ := json_is_detected readable
  exact ⟨readable, detected, (same none (by decide)).1⟩

end Detection

end SchemaAtlas.Loading
