import Mathlib.Data.List.DropRight

/-! # Cleaned texts

Texts are cleaned in two ways. Characters outside a class are replaced by underscores, which leaves
alone just the texts of that class. Characters of a class, be they blanks, points or underscores, are
taken off both ends, which leaves alone just the texts that neither start nor end with one of them. So
cleaning twice is cleaning once.
-/

namespace SchemaAtlas.Text

variable {p : Char → Bool} {cs : List Char}

section Replacing

/-- A text with an underscore for every character outside a class. -/
def replaceBy (p : Char → Bool) (cs : List Char) : List Char := cs.map fun c => if p c then c else '_'

theorem of_mem_replaceBy {c : Char} (mark : p '_' = true) (member : c ∈ replaceBy p cs) :
    p c = true := by
  obtain ⟨raw, _, rfl⟩ := List.mem_map.mp member
  split
  · assumption
  · exact mark

theorem replaceBy_of_all (all : ∀ c ∈ cs, p c = true) : replaceBy p cs = cs := by
  have same : replaceBy p cs = cs.map id := List.map_congr_left fun c member => if_pos (all c member)
  rwa [List.map_id] at same

end Replacing

section Ends

/-- A text without the characters of a class at its ends. -/
def trimBy (p : Char → Bool) (cs : List Char) : List Char := (cs.dropWhile p).rdropWhile p

theorem dropWhile_eq_self_iff_head? : cs.dropWhile p = cs ↔ ∀ c ∈ cs.head?, p c = false := by
  cases cs with
  | nil => simp
  | cons c rest => simp [List.dropWhile_eq_self_iff]

theorem rdropWhile_eq_self_iff_getLast? :
    cs.rdropWhile p = cs ↔ ∀ c ∈ cs.getLast?, p c = false := by
  rw [List.rdropWhile, List.reverse_eq_iff, dropWhile_eq_self_iff_head?, List.head?_reverse]

/-- A text is what is left of it with characters of the class around it. -/
theorem exists_trimBy (p : Char → Bool) (cs : List Char) :
    ∃ before behind, cs = before ++ trimBy p cs ++ behind ∧
      (∀ c ∈ before, p c = true) ∧ ∀ c ∈ behind, p c = true := by
  refine ⟨cs.takeWhile p, (cs.dropWhile p).rtakeWhile p, ?_, ?_, ?_⟩
  · rw [List.append_assoc, trimBy, List.rdropWhile_append_rtakeWhile,
      List.takeWhile_append_dropWhile]
  · exact fun c member => List.mem_takeWhile_imp member
  · exact fun c member => List.mem_rtakeWhile_imp member

theorem isInfix_trimBy (p : Char → Bool) (cs : List Char) : trimBy p cs <:+: cs := by
  obtain ⟨before, behind, whole, _⟩ := exists_trimBy p cs
  exact ⟨before, behind, whole.symm⟩

/-- No character of the class is left at the start. -/
theorem head?_trimBy (p : Char → Bool) (cs : List Char) :
    ∀ c ∈ (trimBy p cs).head?, p c = false := by
  intro c first
  obtain ⟨behind, whole⟩ := List.rdropWhile_prefix p (l := cs.dropWhile p)
  have kept : c ∈ (cs.dropWhile p).head? := by
    rw [← whole]
    exact List.mem_head?_append_of_mem_head? first
  have opens := List.head?_dropWhile_not p cs
  rw [Option.mem_def] at kept
  rwa [kept] at opens

/-- No character of the class is left at the end. -/
theorem getLast?_trimBy (p : Char → Bool) (cs : List Char) :
    ∀ c ∈ (trimBy p cs).getLast?, p c = false :=
  rdropWhile_eq_self_iff_getLast?.mp (List.rdropWhile_idempotent p _)

/-- A text is left alone just when neither of its ends is of the class. -/
theorem trimBy_eq_self_iff : trimBy p cs = cs ↔
    (∀ c ∈ cs.head?, p c = false) ∧ ∀ c ∈ cs.getLast?, p c = false := by
  constructor
  · intro whole
    rw [← whole]
    exact ⟨head?_trimBy p cs, getLast?_trimBy p cs⟩
  · rintro ⟨first, last⟩
    rw [trimBy, dropWhile_eq_self_iff_head?.mpr first, rdropWhile_eq_self_iff_getLast?.mpr last]

theorem trimBy_trimBy (p : Char → Bool) (cs : List Char) : trimBy p (trimBy p cs) = trimBy p cs :=
  trimBy_eq_self_iff.mpr ⟨head?_trimBy p cs, getLast?_trimBy p cs⟩

/-- Nothing is left of a text just when all of it is of the class. -/
theorem trimBy_eq_nil_iff : trimBy p cs = [] ↔ ∀ c ∈ cs, p c = true := by
  constructor
  · intro empty
    obtain ⟨before, behind, whole, inside, outside⟩ := exists_trimBy p cs
    rw [whole, empty, List.append_nil]
    exact List.forall_mem_append.mpr ⟨inside, outside⟩
  · intro all
    rw [trimBy, List.dropWhile_eq_nil_iff.mpr all, List.rdropWhile_nil]

end Ends

end SchemaAtlas.Text
