import SchemaAtlas.Diagram.Token
import SchemaAtlas.Proofs.Text.Blank

/-! # Tokens

Whatever a name or a type is made of, a diagram shows a token in its place. The token of a name is
empty only when the name is blank, and a name that is a token already stands as it is. The token of a
type is never empty and has no capital letters.
-/

namespace SchemaAtlas.Diagram

open Text (isBlank trim)

/-- A text of ASCII letters, digits and underscores. -/
def IsToken (s : String) : Prop := ∀ c ∈ s.toList, isTokenChar c = true

instance (s : String) : Decidable (IsToken s) := List.decidableBAll _ _

/-- Small ASCII letters, digits and the underscore. -/
def isTypeChar (c : Char) : Bool := c.isLower || c.isDigit || c == '_'

/-- Small ASCII letters and digits. -/
def isRunChar (c : Char) : Bool := c.isLower || c.isDigit

/-- A token without capital letters that is not empty. -/
structure IsTypeToken (s : String) : Prop where
  chars : ∀ c ∈ s.toList, isTypeChar c = true
  nonempty : s ≠ ""

/-- What stands for a name in a diagram: a token, which is empty only for a blank name and the name
itself when that is a token. -/
structure Shows (name shown : String) : Prop where
  token : IsToken shown
  nonempty : Text.isBlankText name = false → shown ≠ ""
  kept : IsToken name → shown = name

section Characters

variable {c : Char} {cs : List Char}

theorem isBlank_eq_false_of_isTokenChar (token : isTokenChar c = true) : isBlank c = false :=
  Text.isBlank_eq_false_of_apart (by decide) token

theorem isTokenChar_of_isTypeChar (kind : isTypeChar c = true) : isTokenChar c = true := by
  change (c.isUpper || c.isLower || c.isDigit || c == '_') = true
  simp only [isTypeChar, Bool.or_eq_true] at kind ⊢
  tauto

theorem toNat_lt_of_isTokenChar (token : isTokenChar c = true) : c.toNat < 128 := by
  have below (high : Char) (small : high.toNat < 128) (bound : c.val ≤ high.val) : c.toNat < 128 :=
    Nat.lt_of_le_of_lt (UInt32.le_iff_toNat_le.mp bound) small
  change (c.isUpper || c.isLower || c.isDigit || c == '_') = true at token
  simp only [Bool.or_eq_true, beq_iff_eq] at token
  rcases token with ((upper | lower) | digit) | rfl
  · exact below 'Z' (by decide) (of_decide_eq_true upper).2
  · exact below 'z' (by decide) (of_decide_eq_true ((Bool.and_eq_true _ _).mp lower).2)
  · exact below '9' (by decide) (of_decide_eq_true ((Bool.and_eq_true _ _).mp digit).2)
  · decide

theorem isAlphanum_of_isRunChar (kind : isRunChar c = true) : c.isAlphanum = true := by
  change ((c.isUpper || c.isLower) || c.isDigit) = true
  simp only [isRunChar, Bool.or_eq_true] at kind ⊢
  tauto

/-- Small letters and digits have no smaller form. -/
theorem toLower_of_isRunChar (kind : isRunChar c = true) : c.toLower = c := by
  have each : ∀ n < 128, isRunChar (Char.ofNat n) = true →
      (Char.ofNat n).toLower = Char.ofNat n := by decide
  have token : isTokenChar c = true := by
    rw [isTokenChar, isAlphanum_of_isRunChar kind, Bool.true_or]
  have same := each c.toNat (toNat_lt_of_isTokenChar token)
  rw [Char.ofNat_toNat] at same
  exact same kind

/-- A letter or digit in small form is a small letter or a digit. -/
theorem isRunChar_toLower (letter : c.isAlphanum = true) : isRunChar c.toLower = true := by
  have each : ∀ n < 128, (Char.ofNat n).isAlphanum = true →
      isRunChar (Char.ofNat n).toLower = true := by decide
  have token : isTokenChar c = true := by rw [isTokenChar, letter, Bool.true_or]
  have lower := each c.toNat (toNat_lt_of_isTokenChar token)
  rw [Char.ofNat_toNat] at lower
  exact lower letter

/-- In small letters a token is made of the characters of types. -/
theorem isTypeChar_toLower (token : isTokenChar c = true) : isTypeChar c.toLower = true := by
  rw [isTokenChar, Bool.or_eq_true, beq_iff_eq] at token
  rcases token with letter | rfl
  · exact Bool.or_eq_true_iff.mpr (.inl (isRunChar_toLower letter))
  · rfl

theorem isTokenChar_of_mem_tokenChars (member : c ∈ tokenChars cs) : isTokenChar c = true :=
  Text.of_mem_replaceBy rfl member

theorem tokenChars_of_token (token : ∀ c ∈ cs, isTokenChar c = true) : tokenChars cs = cs :=
  Text.replaceBy_of_all token

theorem collapse_subset (cs : List Char) : collapse cs ⊆ cs := by
  fun_induction collapse cs with
  | case1 rest ih => exact List.Subset.trans ih (List.subset_cons_self _ _)
  | case2 c rest _ ih => exact List.cons_subset_cons c ih
  | case3 => exact List.Subset.refl []

theorem trimUnderscores_eq_trimBy (cs : List Char) :
    trimUnderscores cs = Text.trimBy (· == '_') cs := rfl

end Characters

section Names

variable {s : String}

theorem isToken_nameOf (s : String) : IsToken (nameOf s) := by
  intro c member
  rw [nameOf, String.toList_ofList] at member
  exact isTokenChar_of_mem_tokenChars member

theorem nameOf_eq_empty_iff : nameOf s = "" ↔ Text.isBlankText s = true := by
  rw [nameOf, ← String.toList_inj, String.toList_ofList, sanitizeName, tokenChars, String.toList_empty,
    List.map_eq_nil_iff, Text.trim_eq_nil_iff, Text.isBlankText, Text.allBlank, List.all_eq_true]

theorem nameOf_of_isToken (token : IsToken s) : nameOf s = s := by
  have filled : ∀ c ∈ s.toList, isBlank c = false := fun c member =>
    isBlank_eq_false_of_isTokenChar (token c member)
  rw [nameOf, sanitizeName, Text.trim_of_filled filled, tokenChars_of_token token,
    String.ofList_toList]

/-- The tokens are the names that stand as they are. -/
theorem nameOf_eq_self_iff : nameOf s = s ↔ IsToken s :=
  ⟨fun same => same ▸ isToken_nameOf s, nameOf_of_isToken⟩

theorem shows_nameOf (s : String) : Shows s (nameOf s) where
  token := isToken_nameOf s
  nonempty := by
    intro filled empty
    rw [nameOf_eq_empty_iff.mp empty] at filled
    cases filled
  kept := nameOf_of_isToken

theorem isTypeToken_typeOf (s : String) : IsTypeToken (typeOf s) := by
  have token : ∀ c ∈ trimUnderscores (collapse (tokenChars (trim s.toList))),
      isTokenChar c = true := fun c member =>
    isTokenChar_of_mem_tokenChars (collapse_subset _ ((Text.isInfix_trimBy _ _).subset member))
  unfold typeOf sanitizeType
  split
  · exact ⟨by simp [isTypeChar], by decide⟩
  · next filled =>
    constructor
    · intro c member
      rw [String.toList_ofList] at member
      obtain ⟨raw, inside, rfl⟩ := List.mem_map.mp member
      exact isTypeChar_toLower (token raw inside)
    · intro empty
      rw [← String.toList_inj, String.toList_ofList, String.toList_empty, List.map_eq_nil_iff] at empty
      exact filled empty

theorem IsTypeToken.token (kind : IsTypeToken s) : IsToken s :=
  fun c member => isTokenChar_of_isTypeChar (kind.chars c member)

end Names

end SchemaAtlas.Diagram
