import SchemaAtlas.Document.Literal
import Mathlib.Data.String.Basic

/-! # What is shown is not empty

A literal is never the empty text. Shown on its own a value is empty only when it is the empty text,
which counts as absent, so a name that was not passed over shows as one.
-/

namespace SchemaAtlas.Document

open Decimal

theorem write_ne_empty (x : Real64) : realLayout.write x ≠ "" := by
  have magnitude (significand : Nat) (exponent : Int) :
      realLayout.magnitude significand exponent ≠ "" := by
    unfold Layout.magnitude
    dsimp only
    split
    · unfold Layout.positional
      dsimp only
      split
      · simp [realLayout]
      · split <;> simp
    · simp [Layout.exponentPart, realLayout]
  cases x with
  | undefined => simp [Layout.write, realLayout]
  | infinite negative => cases negative <;> simp [Layout.write, realLayout]
  | finite negative significand exponent =>
    have digits : (if significand = 0 then "0" ++ realLayout.wholeEnding
        else realLayout.magnitude significand exponent) ≠ "" := by
      split
      · simp
      · exact magnitude significand exponent
    simp [Layout.write, digits]

theorem momentLiteral_ne_empty (m : Moment) : momentLiteral m ≠ "" :=
  fun empty => absurd (String.append_eq_empty_iff.mp empty).2 (by simp)

theorem Scalar.literal_ne_empty (s : Scalar) : s.literal ≠ "" := by
  cases s with
  | null => simp [literal]
  | bool b => cases b <;> simp [literal]
  | int n =>
    cases n with
    | ofNat n => exact Nat.repr_ne_empty
    | negSucc n =>
      change "-" ++ (n + 1).repr ≠ ""
      simp
  | real x =>
    rw [literal]
    exact write_ne_empty x
  | text s => simp [literal, quotedText]
  | date d => simp [literal]
  | moment m => exact momentLiteral_ne_empty m
  | bytes octets => simp [literal, quotedBytes]

theorem Value.literal_ne_empty (value : Value) : value.literal ≠ "" := by
  unfold Value.literal
  split
  · exact Scalar.literal_ne_empty _
  all_goals simp

/-- A value that does not count as absent does not show as nothing. -/
theorem Value.display_ne_empty {value : Value} (present : value.isTruthy = true) :
    value.display ≠ "" := by
  cases value with
  | scalar s =>
    cases s with
    | text s => simpa [isTruthy, display, Scalar.display] using present
    | date d => simp [display, Scalar.display, Date.iso]
    | moment m => simp [display, Scalar.display, Moment.iso]
    | null => cases present
    | bool b => exact Scalar.literal_ne_empty (.bool b)
    | int n => exact Scalar.literal_ne_empty (.int n)
    | real x => exact Scalar.literal_ne_empty (.real x)
    | bytes octets => exact Scalar.literal_ne_empty (.bytes octets)
  | _ => exact literal_ne_empty _

end SchemaAtlas.Document
