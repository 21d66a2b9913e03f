import SchemaAtlas.Text.Split
import Mathlib.Data.List.Basic

/-! # Pieces of joined text

A text without the separating character is one piece, and a separator ends the piece in front of it.
Joining the pieces of a string with their separator gives the string back, and cutting joined parts
gives the parts back. A fragment that occurs in a text stands there in one piece, so a text with
none of its characters behind it makes no difference.
-/

namespace SchemaAtlas.Text

section Cut

variable {separator : Char} {cs : List Char}

theorem cut_of_not_mem (absent : separator ∉ cs) : cut separator cs = [cs] := by
  induction cs with
  | nil => rfl
  | cons c rest ih =>
    obtain ⟨differs, absent⟩ := List.ne_and_not_mem_of_not_mem_cons absent
    rw [cut, if_neg differs.symm, ih absent]

theorem not_mem_of_mem_cut {piece : List Char} (member : piece ∈ cut separator cs) :
    separator ∉ piece := by
  induction cs generalizing piece with
  | nil =>
    rw [List.mem_singleton.mp member]
    exact List.not_mem_nil
  | cons c rest ih =>
    unfold cut at member
    split at member
    · rcases List.mem_cons.mp member with rfl | member
      · exact List.not_mem_nil
      · exact ih member
    · next differs =>
      split at member
      · rw [List.mem_singleton.mp member]
        exact fun inside => differs (List.mem_singleton.mp inside).symm
      · next first pieces found =>
        rw [found] at ih
        rcases List.mem_cons.mp member with rfl | member
        · exact List.not_mem_cons_of_ne_of_not_mem (Ne.symm differs) (ih List.mem_cons_self)
        · exact ih (List.mem_cons_of_mem _ member)

theorem cut_append (absent : separator ∉ cs) (rest : List Char) :
    cut separator (cs ++ separator :: rest) = cs :: cut separator rest := by
  induction cs with
  | nil => rw [List.nil_append, cut, if_pos rfl]
  | cons c inner ih =>
    obtain ⟨differs, absent⟩ := List.ne_and_not_mem_of_not_mem_cons absent
    rw [List.cons_append, cut, if_neg differs.symm, ih absent]

theorem exists_last_separator (member : separator ∈ cs) :
    ∃ before behind, cs = before ++ separator :: behind ∧ separator ∉ behind := by
  obtain ⟨back, front, split, last⟩ := List.eq_append_cons_of_mem (List.mem_reverse.mpr member)
  refine ⟨front.reverse, back.reverse, ?_, by rwa [List.mem_reverse]⟩
  rw [← List.reverse_reverse cs, split]
  simp

/-- Read from its end, a text first gives what stands behind the last separator. -/
theorem takeWhile_reverse_append (absent : separator ∉ cs) (before : List Char) :
    (before ++ separator :: cs).reverse.takeWhile (· != separator) = cs.reverse := by
  have inside : ∀ c ∈ cs.reverse, (c != separator) = true := by
    intro c member
    rw [bne_iff_ne]
    rintro rfl
    exact absent (List.mem_reverse.mp member)
  rw [List.reverse_append, List.reverse_cons, List.append_assoc,
    List.takeWhile_append_of_pos inside]
  simp

end Cut

section Glue

theorem glue_cons (separator piece : List Char) {pieces : List (List Char)} (more : pieces ≠ []) :
    glue separator (piece :: pieces) = piece ++ separator ++ glue separator pieces := by
  obtain ⟨next, others, rfl⟩ := List.exists_cons_of_ne_nil more
  rfl

theorem glue_cons_cons (separator : List Char) (c : Char) (piece : List Char)
    (pieces : List (List Char)) :
    glue separator ((c :: piece) :: pieces) = c :: glue separator (piece :: pieces) := by
  cases pieces <;> rfl

theorem map_glue (f : Char → Char) (separator : List Char) (pieces : List (List Char)) :
    (glue separator pieces).map f = glue (separator.map f) (pieces.map (List.map f)) := by
  induction pieces with
  | nil => rfl
  | cons piece rest ih =>
    cases rest with
    | nil => rfl
    | cons next others =>
      rw [List.map_cons, glue_cons separator piece (List.cons_ne_nil next others),
        glue_cons (separator.map f) (piece.map f) (by simp), List.map_append, List.map_append, ih]

/-- A text between two glued lists makes one piece of the last and the first beside it. -/
theorem glue_append (separator left middle right : List Char) (before rest : List (List Char)) :
    glue separator (before ++ [left]) ++ middle ++ glue separator (right :: rest) =
      glue separator (before ++ (left ++ middle ++ right) :: rest) := by
  induction before with
  | nil => cases rest <;> simp [glue]
  | cons piece before ih =>
    rw [List.cons_append, List.cons_append, glue_cons separator piece (by simp : before ++ _ ≠ []),
      glue_cons separator piece (by simp), ← ih]
    simp only [List.append_assoc]

end Glue

section Pieces

variable {separator : Char}

theorem pieces_of_not_mem {s : String} (absent : separator ∉ s.toList) :
    pieces separator s = [s] := by
  rw [pieces, cut_of_not_mem absent, List.map_singleton, String.ofList_toList]

theorem not_mem_of_mem_pieces {s part : String} (member : part ∈ pieces separator s) :
    separator ∉ part.toList := by
  obtain ⟨piece, inside, rfl⟩ := List.mem_map.mp member
  rw [String.toList_ofList]
  exact not_mem_of_mem_cut inside

theorem pieces_append {first : String} (absent : separator ∉ first.toList) (rest : String) :
    pieces separator (first ++ String.singleton separator ++ rest) =
      first :: pieces separator rest := by
  have divided : (first ++ String.singleton separator ++ rest).toList =
      first.toList ++ separator :: rest.toList := by simp
  rw [pieces, divided, cut_append absent, List.map_cons, String.ofList_toList, pieces]

theorem filter_nonempty {parts : List String} (nonempty : ∀ part ∈ parts, part ≠ "") :
    parts.filter (· != "") = parts :=
  List.filter_eq_self.mpr fun part member => by simpa using nonempty part member

theorem joined_cons_cons (separator first second : String) (rest : List String) :
    joined separator (first :: second :: rest) =
      first ++ separator ++ joined separator (second :: rest) := rfl

theorem toList_joined (separator : String) (items : List String) :
    (joined separator items).toList = glue separator.toList (items.map String.toList) := by
  induction items with
  | nil => rfl
  | cons item rest ih =>
    cases rest with
    | nil => rfl
    | cons next others =>
      simp only [joined, glue, List.map_cons, String.toList_append] at ih ⊢
      rw [ih]

/-- The pieces of a string make up the string again. -/
theorem joined_pieces (separator : Char) (s : String) :
    joined (String.singleton separator) (pieces separator s) = s := by
  apply String.toList_injective
  have same : (pieces separator s).map String.toList = cut separator s.toList := by
    simp [pieces, Function.comp_def]
  rw [toList_joined, same, String.toList_singleton, glue_cut]

theorem pieces_ne_nil (separator : Char) (s : String) : pieces separator s ≠ [] := by
  simpa [pieces] using cut_ne_nil separator s.toList

/-- A string that is cut into one piece is that piece. -/
theorem pieces_of_singleton {s piece : String} (single : pieces separator s = [piece]) :
    pieces separator s = [s] := by
  have whole := joined_pieces separator s
  rw [single] at whole ⊢
  rw [← whole, joined]

theorem pieces_injective (separator : Char) : Function.Injective (pieces separator) := by
  intro s t same
  rw [← joined_pieces separator s, same, joined_pieces]

/-- Parts without the separator are the pieces of the text that joins them. -/
theorem pieces_joined {parts : List String} (nonempty : parts ≠ [])
    (absent : ∀ part ∈ parts, separator ∉ part.toList) :
    pieces separator (joined (String.singleton separator) parts) = parts := by
  induction parts with
  | nil => contradiction
  | cons part rest ih =>
    obtain ⟨here, absent⟩ := List.forall_mem_cons.mp absent
    cases rest with
    | nil => exact pieces_of_not_mem here
    | cons next others =>
      rw [joined_cons_cons, pieces_append here, ih (List.cons_ne_nil _ _) absent]

/-- Lines without a line feed in them are the pieces of the text that they make up. -/
theorem pieces_lines {lines : List String} (unbroken : ∀ line ∈ lines, '\n' ∉ line.toList) :
    pieces '\n' (String.join (lines.map (· ++ "\n"))) = lines ++ [""] := by
  induction lines with
  | nil => rfl
  | cons line rest ih =>
    obtain ⟨here, unbroken⟩ := List.forall_mem_cons.mp unbroken
    rw [List.map_cons, String.join_cons, List.cons_append, ← ih unbroken]
    exact pieces_append here _

end Pieces

section Fragment

variable {opening fragment cs : List Char}

theorem dropOpening?_eq_some_iff {rest : List Char} :
    dropOpening? opening cs = some rest ↔ cs = opening ++ rest := by
  induction opening generalizing cs with
  | nil => simp [dropOpening?]
  | cons o opening ih =>
    cases cs with
    | nil => simp [dropOpening?]
    | cons c cs =>
      rw [dropOpening?, List.cons_append, List.cons.injEq]
      by_cases same : o = c
      · simp [same, ih]
      · simp [same, Ne.symm same]

theorem startsWith_iff_prefix : startsWith opening cs = true ↔ opening <+: cs := by
  rw [startsWith, Option.isSome_iff_exists]
  simp only [dropOpening?_eq_some_iff]
  exact ⟨fun ⟨rest, same⟩ => ⟨rest, same.symm⟩, fun ⟨rest, same⟩ => ⟨rest, same.symm⟩⟩

theorem contains_iff_infix : contains fragment cs = true ↔ fragment <:+: cs := by
  induction cs with
  | nil => simp [contains]
  | cons c cs ih => rw [contains, Bool.or_eq_true, startsWith_iff_prefix, ih, List.infix_cons_iff]

/-- A text without any character of a fragment adds no occurrence of it behind another text. -/
theorem infix_append_iff {tail : List Char} (nonempty : fragment ≠ [])
    (apart : ∀ c ∈ tail, c ∉ fragment) : fragment <:+: cs ++ tail ↔ fragment <:+: cs := by
  refine ⟨?_, fun occurs => occurs.trans (List.prefix_append cs tail).isInfix⟩
  rintro ⟨before, behind, same⟩
  -- what the fragment leaves in front of it decides whether it reaches into the tail
  rcases List.append_eq_append_iff.mp same with ⟨rest, rfl, rfl⟩ | ⟨rest, whole, rfl⟩
  · exact ⟨before, rest, rfl⟩
  · rcases List.append_eq_append_iff.mp whole with ⟨part, rfl, rfl⟩ | ⟨part, rfl, rfl⟩
    · cases rest with
      | nil => exact ⟨before, [], by simp⟩
      | cons c rest => exact absurd (by simp) (apart c (by simp))
    · obtain ⟨c, member⟩ := List.exists_mem_of_ne_nil fragment nonempty
      exact absurd member (apart c (by simp [member]))

end Fragment

end SchemaAtlas.Text
