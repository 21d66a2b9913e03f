import SchemaAtlas.Proofs.Transform.Argument
import Mathlib.Data.List.Forall2

/-! # Argument lists put together again

Splitting loses nothing but blanks. A list is cut at the commas where a scan stands outside quotes and
parentheses, whether or not these are balanced, and at no other character, so its pieces with a comma
between two of them are the list again. An argument is a piece without the blanks at its ends, and only
a blank piece at the end of the list makes none.
-/

namespace SchemaAtlas.Transform

open Text

section Dividers

variable {scan : Scan} {front behind : List Char}

/-- A comma outside divides a list: the pieces in front of it and those behind it are the pieces of the
two parts, the scan going on behind the comma. -/
theorem Scan.cut_divided (outside : (scan.run front).Outside) (behind : List Char) :
    scan.cut (front ++ ',' :: behind) =
      scan.cut front ++ ((scan.run front).step ',').cut behind := by
  induction front generalizing scan with
  | nil => exact Scan.cut_cons_of_divides (Scan.divides_iff.mpr ⟨rfl, outside⟩)
  | cons c front ih =>
    rw [Scan.run_cons] at outside ⊢
    rw [List.cons_append]
    cases divides : scan.divides c with
    | true =>
      rw [Scan.cut_cons_of_divides divides, Scan.cut_cons_of_divides divides, ih outside,
        List.cons_append]
    | false =>
      rw [Scan.cut_cons_of_not_divides divides, Scan.cut_cons_of_not_divides divides, ih outside]
      obtain ⟨piece, more, pieces⟩ :=
        List.exists_cons_of_ne_nil (Scan.cut_ne_nil (scan.step c) front)
      rw [pieces]
      rfl

/-- Where the pieces of a list fall into two parts, a comma outside stands between them. -/
theorem Scan.divided_of_cut {cs : List Char} {before after : List (List Char)}
    (pieces : scan.cut cs = before ++ after) (first : before ≠ []) (last : after ≠ []) :
    cs = glue [','] before ++ ',' :: glue [','] after ∧
      (scan.run (glue [','] before)).Outside := by
  induction cs generalizing scan before with
  | nil =>
    -- a single piece cannot be divided between two lists that both have one
    have lengths := congrArg List.length pieces
    have few := List.length_pos_of_ne_nil first
    have more := List.length_pos_of_ne_nil last
    simp only [Scan.cut, List.length_cons, List.length_nil, List.length_append] at lengths
    omega
  | cons c cs ih =>
    obtain ⟨piece, before, rfl⟩ := List.exists_cons_of_ne_nil first
    cases divides : scan.divides c with
    | true =>
      obtain ⟨rfl, outside⟩ := Scan.divides_iff.mp divides
      rw [Scan.cut_cons_of_divides divides, List.cons_append, List.cons.injEq] at pieces
      obtain ⟨rfl, pieces⟩ := pieces
      cases before with
      | nil =>
        have rest := Scan.glue_cut (scan.step ',') cs
        rw [pieces, List.nil_append] at rest
        exact ⟨by rw [rest]; rfl, outside⟩
      | cons next others =>
        obtain ⟨whole, outside⟩ := ih pieces (List.cons_ne_nil _ _)
        rw [glue_cons [','] [] (List.cons_ne_nil next others), List.nil_append]
        exact ⟨congrArg (',' :: ·) whole, outside⟩
    | false =>
      rw [Scan.cut_cons_of_not_divides divides] at pieces
      obtain ⟨inner, others, cut⟩ := List.exists_cons_of_ne_nil (Scan.cut_ne_nil (scan.step c) cs)
      rw [cut, List.modifyHead_cons, List.cons_append, List.cons.injEq] at pieces
      obtain ⟨rfl, rfl⟩ := pieces
      rw [← List.cons_append] at cut
      obtain ⟨whole, outside⟩ := ih cut (List.cons_ne_nil _ _)
      have joined : glue [','] ((c :: inner) :: before) = c :: glue [','] (inner :: before) := by
        cases before <;> rfl
      rw [joined]
      exact ⟨congrArg (c :: ·) whole, outside⟩

/-- The pieces of a list part where a comma stands outside, and nowhere else. -/
theorem Scan.outside_iff_parts {cs : List Char} :
    cs = front ++ ',' :: behind ∧ (scan.run front).Outside ↔
      ∃ before after, scan.cut cs = before ++ after ∧ (before ≠ [] ∧ after ≠ []) ∧
        glue [','] before = front ∧ glue [','] after = behind := by
  constructor
  · rintro ⟨rfl, outside⟩
    exact ⟨_, _, Scan.cut_divided outside behind, ⟨Scan.cut_ne_nil _ _, Scan.cut_ne_nil _ _⟩,
      Scan.glue_cut _ _, Scan.glue_cut _ _⟩
  · rintro ⟨before, after, pieces, ⟨some, more⟩, rfl, rfl⟩
    exact Scan.divided_of_cut pieces some more

end Dividers

section Kept

/-- Every piece is kept in trimmed form, but for a blank one at the end. -/
theorem keptPieces_concat (front : List (List Char)) (last : List Char) :
    keptPieces (front ++ [last]) =
      front.map trim ++ if trim last = [] then [] else [trim last] := by
  induction front with
  | nil => rfl
  | cons piece front ih =>
    have more : front ++ [last] ≠ [] := List.append_ne_nil_of_right_ne_nil _ (List.cons_ne_nil _ _)
    obtain ⟨next, others, behind⟩ := List.exists_cons_of_ne_nil more
    rw [List.cons_append, List.map_cons, List.cons_append, ← ih, behind]
    rfl

/-- An argument and the same with blanks around it. -/
structure Spaced (argument piece : String) : Prop where
  trimmed : trimmed argument = argument
  padded : ∃ before behind, piece = before ++ argument ++ behind ∧
    isBlankText before = true ∧ isBlankText behind = true

theorem spaced_trimmed (piece : String) : Spaced (trimmed piece) piece where
  trimmed := by
    rw [Text.trimmed, Text.trimmed, String.toList_ofList, trim_trim]
  padded := by
    obtain ⟨before, behind, whole, blankBefore, blankBehind⟩ := exists_trim piece.toList
    refine ⟨String.ofList before, String.ofList behind, ?_, ?_, ?_⟩
    · apply String.toList_injective
      simpa [Text.trimmed] using whole
    · simpa [isBlankText, allBlank] using blankBefore
    · simpa [isBlankText, allBlank] using blankBehind

/-- Texts with blanks around them make up a text when a comma stands between two of them, and possibly
a comma and blanks at the end. -/
def MakesUp (arguments : List String) (s : String) : Prop :=
  ∃ spaced, List.Forall₂ Spaced arguments spaced ∧
    (s = joined "," spaced ∨ ∃ blank, isBlankText blank = true ∧ s = joined "," (spaced ++ [blank]))

theorem forall₂_spaced_trimmed (pieces : List String) :
    List.Forall₂ Spaced (pieces.map trimmed) pieces := by
  rw [List.forall₂_map_left_iff, List.forall₂_same]
  intro piece _
  exact spaced_trimmed piece

end Kept

section Strings

/-- The pieces of an argument list in writing. -/
def piecesOf (s : String) : List String := (Scan.start.cut s.toList).map String.ofList

theorem toList_joined_ofList (pieces : List (List Char)) :
    (joined "," (pieces.map String.ofList)).toList = glue [','] pieces := by
  rw [toList_joined, List.map_map]
  simp [Function.comp_def]

theorem joined_piecesOf (s : String) : joined "," (piecesOf s) = s := by
  apply String.toList_injective
  rw [piecesOf, toList_joined_ofList, Scan.glue_cut]

theorem parts_piecesOf (s front behind : String) :
    s = front ++ "," ++ behind ∧ (Scan.start.run front.toList).Outside ↔
      ∃ before after, piecesOf s = before ++ after ∧ (before ≠ [] ∧ after ≠ []) ∧
        joined "," before = front ∧ joined "," after = behind := by
  have written : s = front ++ "," ++ behind ↔ s.toList = front.toList ++ ',' :: behind.toList := by
    rw [← String.toList_inj]
    simp
  rw [written, Scan.outside_iff_parts]
  constructor
  · rintro ⟨before, after, cut, ⟨first, last⟩, opens, closes⟩
    refine ⟨before.map String.ofList, after.map String.ofList, ?_, ⟨?_, ?_⟩, ?_, ?_⟩
    · rw [piecesOf, cut, List.map_append]
    · simpa using first
    · simpa using last
    · exact String.toList_injective ((toList_joined_ofList before).trans opens)
    · exact String.toList_injective ((toList_joined_ofList after).trans closes)
  · rintro ⟨before, after, pieces, ⟨first, last⟩, rfl, rfl⟩
    obtain ⟨front, back, cut, rfl, rfl⟩ := List.map_eq_append_iff.mp pieces
    refine ⟨front, back, cut, ⟨by simpa using first, by simpa using last⟩, ?_, ?_⟩
    · exact (toList_joined_ofList front).symm
    · exact (toList_joined_ofList back).symm

/-- The arguments of a list are its pieces in trimmed form, without a blank one at the end. -/
theorem exists_argumentsOf_eq (s : String) : ∃ front last, piecesOf s = front ++ [last] ∧
    argumentsOf s = front.map trimmed ++ if isBlankText last then [] else [trimmed last] := by
  obtain ⟨front, last, cut⟩ :=
    List.eq_nil_or_concat' (Scan.start.cut s.toList) |>.resolve_left (Scan.cut_ne_nil _ _)
  refine ⟨front.map String.ofList, String.ofList last, ?_, ?_⟩
  · rw [piecesOf, cut, List.map_append, List.map_singleton]
  · have kept : String.ofList ∘ trim = trimmed ∘ String.ofList := by
      funext piece
      simp [Text.trimmed]
    have blank : trim last = [] ↔ isBlankText (String.ofList last) = true := by
      rw [trim_eq_nil_iff, isBlankText, allBlank, String.toList_ofList, List.all_eq_true]
    rw [argumentsOf, splitArguments, cut, keptPieces_concat, List.map_append, List.map_map,
      List.map_map, kept]
    simp only [blank]
    split
    · rfl
    · simp [Text.trimmed]

/-- The arguments of a list make it up again. -/
theorem makesUp_argumentsOf (s : String) : MakesUp (argumentsOf s) s := by
  obtain ⟨front, last, pieces, arguments⟩ := exists_argumentsOf_eq s
  have whole := joined_piecesOf s
  rw [pieces] at whole
  cases blank : isBlankText last with
  | true =>
    rw [arguments, blank, if_pos rfl, List.append_nil]
    exact ⟨front, forall₂_spaced_trimmed front, .inr ⟨last, blank, whole.symm⟩⟩
  | false =>
    rw [arguments, blank, if_neg Bool.false_ne_true, ← List.map_singleton, ← List.map_append]
    exact ⟨front ++ [last], forall₂_spaced_trimmed _, .inl whole.symm⟩

end Strings

/-- Splitting an argument list loses nothing: the list is its pieces with a comma between two of them,
which are the commas where a scan stands outside quotes and parentheses, and no others. The arguments
are the pieces without the blanks at their ends, but for a blank piece at the end of the list, so with
blanks and at most one comma at the end they make up the list again. -/
theorem splitting_loses_nothing (s : String) :
    ∃ pieces : List String, joined "," pieces = s ∧
      (∀ front behind : String,
        s = front ++ "," ++ behind ∧ (Scan.start.run front.toList).Outside ↔
          ∃ before after, pieces = before ++ after ∧ (before ≠ [] ∧ after ≠ []) ∧
            joined "," before = front ∧ joined "," after = behind) ∧
      (∃ front last, pieces = front ++ [last] ∧
        argumentsOf s = front.map trimmed ++ if isBlankText last then [] else [trimmed last]) ∧
      MakesUp (argumentsOf s) s :=
  ⟨piecesOf s, joined_piecesOf s, parts_piecesOf s, exists_argumentsOf_eq s, makesUp_argumentsOf s⟩

example : argumentsOf " a ,, b), 'c,d" = ["a", "", "b), 'c,d"] := by decide +kernel

end SchemaAtlas.Transform
