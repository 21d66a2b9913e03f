import SchemaAtlas.Text.Blank
import SchemaAtlas.Text.Word
import SchemaAtlas.Proofs.Text.Cleaning

/-! # Texts without blanks at their ends

Trimming leaves a text alone when it neither starts nor ends with a blank. So whatever stands between
two such texts, the whole is one too. Any text is its trimmed form with blanks around it, and trimming
removes just these. No character of a word is blank.
-/

namespace SchemaAtlas.Text

variable {cs left right : List Char}

theorem trim_eq_trimBy (cs : List Char) : trim cs = trimBy isBlank cs := rfl

/-- Trimming leaves a text alone just when neither of its ends is blank. -/
theorem trim_eq_self_iff : trim cs = cs ↔
    (∀ c ∈ cs.head?, isBlank c = false) ∧ ∀ c ∈ cs.getLast?, isBlank c = false :=
  trimBy_eq_self_iff

/-- A text without blanks is left alone. -/
theorem trim_of_filled (filled : ∀ c ∈ cs, isBlank c = false) : trim cs = cs :=
  trim_eq_self_iff.mpr ⟨fun c first => filled c (List.mem_of_head? first),
    fun c last => filled c (List.mem_of_getLast? last)⟩

/-- Trimming leaves nothing of a text just when all of it is blank. -/
theorem trim_eq_nil_iff : trim cs = [] ↔ ∀ c ∈ cs, isBlank c = true := trimBy_eq_nil_iff

theorem trim_between (first : trim left = left) (last : trim right = right)
    (opens : left ≠ []) (closes : right ≠ []) (middle : List Char) :
    trim (left ++ middle ++ right) = left ++ middle ++ right := by
  rw [trim_eq_self_iff] at first last ⊢
  constructor
  · rw [List.append_assoc, List.head?_append_of_ne_nil _ opens]
    exact first.1
  · rw [List.getLast?_append_of_ne_nil _ closes]
    exact last.2

/-- Blanks around a text without blanks at its ends are what trimming removes. -/
theorem trim_around {before behind : List Char} (kept : trim cs = cs)
    (blankBefore : ∀ c ∈ before, isBlank c = true) (blankBehind : ∀ c ∈ behind, isBlank c = true) :
    trim (before ++ cs ++ behind) = cs := by
  cases cs with
  | nil =>
    rw [List.append_nil, trim_eq_nil_iff]
    exact List.forall_mem_append.mpr ⟨blankBefore, blankBehind⟩
  | cons first rest =>
    obtain ⟨start, finish⟩ := trim_eq_self_iff.mp kept
    have opens : (first :: rest ++ behind).dropWhile isBlank = first :: rest ++ behind :=
      dropWhile_eq_self_iff_head?.mpr start
    have closes : ∀ c ∈ behind.reverse, isBlank c = true := by simpa using blankBehind
    rw [trim_eq_trimBy, trimBy, List.append_assoc, List.dropWhile_append_of_pos blankBefore, opens,
      List.rdropWhile, List.reverse_append, List.dropWhile_append_of_pos closes]
    exact rdropWhile_eq_self_iff_getLast?.mpr finish

/-- No blank stands at an end of a trimmed text. -/
theorem trim_trim (cs : List Char) : trim (trim cs) = trim cs := trimBy_trimBy isBlank cs

/-- A text is its trimmed form with blanks around it. -/
theorem exists_trim (cs : List Char) : ∃ before behind, cs = before ++ trim cs ++ behind ∧
    (∀ c ∈ before, isBlank c = true) ∧ ∀ c ∈ behind, isBlank c = true :=
  exists_trimBy isBlank cs

/-- A trimmed text starts with the first character of the text that is not blank. -/
theorem head?_trim {before behind : List Char} {c : Char} (mark : isBlank c = false)
    (blankBefore : ∀ c ∈ before, isBlank c = true) :
    (trim (before ++ c :: behind)).head? = some c := by
  rw [trim, trimStart, List.dropWhile_append_of_pos blankBefore,
    List.dropWhile_cons_of_neg (by simp [mark]), trimEnd, List.reverse_cons, List.dropWhile_append]
  split
  · rw [List.dropWhile_cons_of_neg (by simp [mark])]
    rfl
  · rw [List.reverse_append]
    rfl

section Words

variable {c : Char}

/-- The code points of the blank characters. -/
def blankCodes : List Nat :=
  List.range' 9 5 ++ List.range' 28 5 ++ [0x85, 0xA0, 0x1680] ++ List.range' 0x2000 11 ++
    [0x2028, 0x2029, 0x202F, 0x205F, 0x3000]

theorem toNat_mem_blankCodes (blank : isBlank c = true) : c.toNat ∈ blankCodes := by
  simp only [isBlank, Bool.or_eq_true, Bool.and_eq_true, decide_eq_true_eq, beq_iff_eq] at blank
  simp only [blankCodes, List.mem_append, List.mem_range'_1, List.mem_cons, List.not_mem_nil,
    or_false]
  omega

/-- A character of a class that no blank belongs to is not blank. -/
theorem isBlank_eq_false_of_apart {p : Char → Bool}
    (apart : ∀ n ∈ blankCodes, p (Char.ofNat n) = false) (holds : p c = true) : isBlank c = false := by
  rw [Bool.eq_false_iff]
  intro blank
  have other := apart _ (toNat_mem_blankCodes blank)
  rw [Char.ofNat_toNat, holds] at other
  cases other

theorem isBlank_eq_false_of_isWord (word : isWord c = true) : isBlank c = false :=
  isBlank_eq_false_of_apart (by decide +kernel) word

end Words

end SchemaAtlas.Text
