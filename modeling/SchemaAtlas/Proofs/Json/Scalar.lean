import SchemaAtlas.Proofs.Json.Atom
import SchemaAtlas.Proofs.Json.Written
import SchemaAtlas.Proofs.Text.Blank

/-! # The text of a scalar

What a text in JSON holds apart from lists and objects is a string in quotes, without control
characters in it, or an atom. The characters of either settle what is read, so space around them makes
no difference, and where the text starts is told by its first character.
-/

namespace SchemaAtlas.Json

open Document

/-- The characters in front of a text are the inside of a string with its closing quote. -/
inductive Spells : List Char → List Char → List Char → Prop where
  | close (rest : List Char) : Spells ('"' :: rest) [] rest
  | raw {c : Char} {cs text rest : List Char} (quote : c ≠ '"') (backslash : c ≠ '\\')
      (printable : 32 ≤ c.toNat) (behind : Spells cs text rest) : Spells (c :: cs) (c :: text) rest
  | short {letter c : Char} {cs text rest : List Char} (short : shortEscape? letter = some c)
      (noUnit : letter ≠ 'u') (behind : Spells cs text rest) :
      Spells ('\\' :: letter :: cs) (c :: text) rest
  | unit {c : Char} {digits cs text rest : List Char} (unit : HoldsUnit digits c cs)
      (behind : Spells cs text rest) : Spells ('\\' :: 'u' :: digits) (c :: text) rest

theorem Spells.holds {cs text rest : List Char} (spelled : Spells cs text rest) (opening : Nat) :
    HoldsString opening cs text rest := by
  induction spelled with
  | close rest => exact holdsString_end
  | raw quote backslash printable _ ih => exact holdsString_raw quote backslash printable ih
  | short short noUnit _ ih => exact holdsString_short short noUnit ih
  | unit unit _ ih => exact holdsString_unit unit.reads ih

theorem spells_of_readString {opening : Nat} {cs : List Char} {found : Read (List Char) cs}
    (success : readString opening cs = .ok found) : Spells cs found.value found.rest := by
  -- on the length, since the two units of a pair are read in one step
  induction length : cs.length using Nat.strongRecOn generalizing cs with
  | ind length ih =>
    subst length
    rw [readString.eq_def] at success
    split at success
    · cases success
    · next c rest =>
      split at success
      · next same =>
        subst same
        cases success
        exact .close rest
      split at success
      · next same =>
        subst same
        split at success
        · cases success
        · next letter more =>
          split at success
          · next same =>
            subst same
            split at success
            · cases success
            · next unit read =>
              obtain ⟨tail, behind, success⟩ := Attempt.bind_eq_ok_iff.mp success
              cases success
              exact .unit (holdsUnit_of_readUnit? read) (ih _ (by
                have := unit.shorter
                simp only [List.length_cons]
                omega) behind rfl)
          · next noUnit =>
            split at success
            · cases success
            · next plain short =>
              obtain ⟨tail, behind, success⟩ := Attempt.bind_eq_ok_iff.mp success
              cases success
              exact .short short noUnit (ih _ (length_lt_cons_cons _ _ _) behind rfl)
      split at success
      · cases success
      · next quote backslash printable =>
        obtain ⟨tail, behind, success⟩ := Attempt.bind_eq_ok_iff.mp success
        cases success
        exact .raw quote backslash (by omega) (ih _ (length_lt_cons _ _) behind rfl)

section Strings

theorem printable_of_some {α : Type} {f : Char → Option α}
    (refused : ∀ n < 32, f (Char.ofNat n) = none) {c : Char} {a : α} (success : f c = some a) :
    32 ≤ c.toNat := by
  by_contra control
  have none := refused c.toNat (by omega)
  rw [Char.ofNat_toNat, success] at none
  cases none

theorem printable_of_hexUnit? {a b c d : Char} {unit : Nat} (digits : hexUnit? a b c d = some unit) :
    ∀ digit ∈ [a, b, c, d], 32 ≤ digit.toNat := by
  have printable {digit : Char} {n : Nat} : hexDigit? digit = some n → 32 ≤ digit.toNat :=
    printable_of_some (by decide)
  obtain ⟨_, first, digits⟩ := Option.bind_eq_some_iff.mp digits
  obtain ⟨_, second, digits⟩ := Option.bind_eq_some_iff.mp digits
  obtain ⟨_, third, digits⟩ := Option.bind_eq_some_iff.mp digits
  obtain ⟨_, fourth, _⟩ := Option.bind_eq_some_iff.mp digits
  simp only [List.mem_cons, List.not_mem_nil, or_false]
  rintro digit (rfl | rfl | rfl | rfl)
  · exact printable first
  · exact printable second
  · exact printable third
  · exact printable fourth

/-- The second half of a pair that stands in the front of a text stands in the text. -/
theorem Pairs.of_cut {high low : Nat} {cs more rest : List Char} (early : more <+: cs)
    (pairs : Pairs high low more rest) : ∃ rest', Pairs high low cs rest' := by
  obtain ⟨behind, rfl⟩ := early
  obtain ⟨e, f, g, h, rfl, inside, digits⟩ := pairs
  exact ⟨rest ++ behind, e, f, g, h, by simp, by simp [inside], digits⟩

/-- What is read of a unit is settled by its own characters. -/
theorem HoldsUnit.exists_front {cs rest : List Char} {c : Char} (held : HoldsUnit cs c rest) :
    ∃ front, cs = front ++ rest ∧ (∀ d ∈ front, 32 ≤ d.toNat) ∧
      ∀ tail, tail ≠ [] → tail <+: rest → HoldsUnit (front ++ tail) c tail := by
  cases held with
  | @alone a b c d unit rest digits inside alone =>
    refine ⟨[a, b, c, d], rfl, printable_of_hexUnit? digits, fun tail filled early => ?_⟩
    refine .alone digits filled fun low more pairs => ?_
    obtain ⟨_, pairs⟩ := pairs.of_cut early
    exact alone _ _ pairs
  | @pair a b c d high low cs rest digits pairs =>
    obtain ⟨e, f, g, h, rfl, inside, second, halves⟩ := pairs
    refine ⟨[a, b, c, d] ++ ['\\', 'u'] ++ [e, f, g, h], by simp, ?_, fun tail filled early => ?_⟩
    · simp only [List.forall_mem_append]
      exact ⟨⟨printable_of_hexUnit? digits, by simp⟩, printable_of_hexUnit? second⟩
    · exact .pair digits ⟨e, f, g, h, rfl, filled, second, halves⟩

/-- What is read of a string is settled by its own characters, and none of these is a control
character. -/
theorem Spells.exists_front {cs text rest : List Char} (spelled : Spells cs text rest) :
    ∃ front, cs = front ++ '"' :: rest ∧ (∀ c ∈ front, 32 ≤ c.toNat) ∧
      ∀ tail, tail <+: rest → Spells (front ++ '"' :: tail) text tail := by
  induction spelled with
  | close rest => exact ⟨[], rfl, by simp, fun tail _ => .close tail⟩
  | @raw c cs text rest quote backslash printable _ ih =>
    obtain ⟨front, rfl, plain, settles⟩ := ih
    exact ⟨c :: front, rfl, List.forall_mem_cons.mpr ⟨printable, plain⟩,
      fun tail early => .raw quote backslash printable (settles tail early)⟩
  | @short letter c cs text rest short noUnit _ ih =>
    obtain ⟨front, rfl, plain, settles⟩ := ih
    refine ⟨'\\' :: letter :: front, rfl, ?_,
      fun tail early => .short short noUnit (settles tail early)⟩
    exact List.forall_mem_cons.mpr ⟨by decide,
      List.forall_mem_cons.mpr ⟨printable_of_some (by decide) short, plain⟩⟩
  | @unit c digits cs text rest unit _ ih =>
    obtain ⟨front, rfl, plain, settles⟩ := ih
    obtain ⟨first, rfl, digits, settlesUnit⟩ := unit.exists_front
    refine ⟨'\\' :: 'u' :: (first ++ front), by simp, ?_, fun tail early => ?_⟩
    · simp only [List.forall_mem_cons, List.forall_mem_append]
      exact ⟨by decide, by decide, digits, plain⟩
    · -- the closing quote is what has to follow a unit, wherever the text behind it ends
      have inside : front ++ '"' :: tail ≠ [] := by simp
      have shorter : front ++ '"' :: tail <+: front ++ '"' :: rest :=
        (List.prefix_append_right_inj _).mpr (List.cons_prefix_cons.mpr ⟨rfl, early⟩)
      have whole := Spells.unit (settlesUnit _ inside shorter) (settles tail early)
      rwa [← List.append_assoc] at whole

end Strings

/-- The text of a scalar: a string in quotes, or an atom. -/
inductive IsScalar : List Char → Prop where
  | string {inside : List Char} (plain : ∀ c ∈ inside, 32 ≤ c.toNat) :
      IsScalar ('"' :: (inside ++ ['"']))
  | atom {cs : List Char} (atom : IsAtom cs) : IsScalar cs

section Scalars

variable {c : Char} {cs : List Char}

theorem isBlank_of_isSpace (space : isSpace c = true) : Text.isBlank c = true := by
  simp only [isSpace, Bool.or_eq_true, beq_iff_eq] at space
  rcases space with ((rfl | rfl) | rfl) | rfl <;> rfl

theorem isBlank_of_isGraphic (graphic : IsGraphic c) : Text.isBlank c = false :=
  Text.isBlank_eq_false_of_apart (p := fun c => decide (IsGraphic c)) (by decide)
    (decide_eq_true graphic)

/-- A scalar has no blanks at its ends. -/
theorem IsScalar.trim_eq (scalar : IsScalar cs) : Text.trim cs = cs := by
  rw [Text.trim_eq_self_iff]
  cases scalar with
  | @string inside _ =>
    have last : ('"' :: (inside ++ ['"'])).getLast? = some '"' := by
      rw [← List.cons_append, List.getLast?_concat]
    rw [last]
    constructor
    · rintro c ⟨⟩
      rfl
    · rintro c ⟨⟩
      rfl
  | atom atom =>
    exact ⟨fun c first => isBlank_of_isGraphic (atom.graphic c (List.mem_of_head? first)),
      fun c last => isBlank_of_isGraphic (atom.graphic c (List.mem_of_getLast? last))⟩

theorem IsScalar.lineFeed_not_mem (scalar : IsScalar cs) : '\n' ∉ cs := by
  cases scalar with
  | @string inside plain =>
    simp only [List.mem_cons, List.mem_append, List.not_mem_nil, or_false, not_or]
    exact ⟨by decide, fun member => absurd (plain _ member) (by decide), by decide⟩
  | atom atom => exact fun member => absurd (atom.graphic _ member) (by decide)

/-- A minus in front of a scalar is followed by a graphic character that is no minus. -/
theorem IsScalar.behind_minus {more : List Char} (scalar : IsScalar ('-' :: c :: more)) :
    IsGraphic c ∧ c ≠ '-' := by
  cases scalar with
  | atom atom =>
    refine ⟨atom.graphic c (by simp), ?_⟩
    obtain ⟨d, rest, letter, same | same⟩ := atom.opens
    · exact absurd (List.cons.inj same).1.symm letter
    · cases same
      exact letter

end Scalars

section Values

variable {c : Char} {cs : List Char} {value : Value}

theorem isSpace_of_isGraphic (graphic : IsGraphic c) : isSpace c = false := by
  rw [Bool.eq_false_iff]
  intro space
  simp only [isSpace, Bool.or_eq_true, beq_iff_eq] at space
  rcases space with ((rfl | rfl) | rfl) | rfl <;> exact absurd graphic (by decide)

theorem readValue_atom (noQuote : c ≠ '"') (noList : c ≠ '[') (noObject : c ≠ '\x7b') :
    readValue (c :: cs) = readAtom (c :: cs) := by
  rw [readValue, if_neg noQuote, if_neg noList, if_neg noObject]

theorem readValue_quote {string : Read (List Char) cs}
    (success : readString (cs.length + 1) cs = .ok string) :
    ∃ shorter, readValue ('"' :: cs) =
      .ok ⟨.text (String.ofList string.value), string.rest, shorter⟩ := by
  refine ⟨Nat.lt_trans string.shorter (length_lt_cons _ _), ?_⟩
  rw [readValue, if_pos rfl, success]
  rfl

/-- A value that is no collection is read from the text of a scalar, alone as well as in front of
something else. -/
theorem readValue_front {found : Read Value (c :: cs)} (success : readValue (c :: cs) = .ok found)
    (noList : c ≠ '[') (noObject : c ≠ '\x7b') :
    ∃ front, c :: cs = c :: front ++ found.rest ∧ IsScalar (c :: front) ∧
      ∃ shorter, readValue (c :: front) = .ok ⟨found.value, [], shorter⟩ := by
  by_cases quote : c = '"'
  · subst quote
    rw [readValue, if_pos rfl] at success
    obtain ⟨string, read, success⟩ := Attempt.bind_eq_ok_iff.mp success
    cases success
    obtain ⟨inside, whole, plain, settles⟩ := (spells_of_readString read).exists_front
    obtain ⟨shorter, alone⟩ := (settles [] List.nil_prefix).holds ((inside ++ ['"']).length + 1)
    exact ⟨inside ++ ['"'], by simp [whole], .string plain, readValue_quote alone⟩
  · rw [readValue_atom quote noList noObject] at success
    obtain ⟨front, whole, atom, settles⟩ := readAtom_front success
    obtain ⟨d, more, rfl⟩ : ∃ d more, front = d :: more := by
      obtain ⟨d, more, _, rfl | rfl⟩ := atom.opens
      · exact ⟨_, _, rfl⟩
      · exact ⟨_, _, rfl⟩
    obtain ⟨rfl, _⟩ := List.cons.inj whole
    have settled := settles [] List.nil_prefix
    rw [List.append_nil] at settled
    obtain ⟨shorter, alone⟩ := settled
    exact ⟨more, whole, .atom atom, shorter, (readValue_atom quote noList noObject).trans alone⟩

/-- A text that can be seen from its first character on is read whole when a value is read from it and
nothing is left. -/
theorem readAll_of_readValue {shorter : [].length < (c :: cs).length} (graphic : IsGraphic c)
    (alone : readValue (c :: cs) = .ok ⟨value, [], shorter⟩) : readAll (c :: cs) = .ok value := by
  have noMark : ¬ (c :: cs).head? = some (Char.ofNat 0xFEFF) := by
    intro mark
    cases mark
    exact absurd graphic (by decide)
  have skipped : skipSpace (c :: cs) = c :: cs :=
    List.dropWhile_cons_of_neg (by simp [isSpace_of_isGraphic graphic])
  rw [readAll, if_neg noMark, skipped, alone]
  rfl

theorem IsScalar.graphic (scalar : IsScalar (c :: cs)) : IsGraphic c := by
  cases scalar with
  | string _ => decide
  | atom atom => exact atom.graphic c List.mem_cons_self

/-- A value starts a collection, or it is read from the text of a scalar. -/
theorem readValue_cases {found : Read Value cs} (success : readValue cs = .ok found) :
    (∃ c behind, (c = '[' ∨ c = '\x7b') ∧ cs = c :: behind) ∨
      ∃ scalar, IsScalar scalar ∧ cs = scalar ++ found.rest ∧ readAll scalar = .ok found.value := by
  cases cs with
  | nil =>
    rw [readValue] at success
    cases success
  | cons c rest =>
    by_cases collection : c = '[' ∨ c = '\x7b'
    · exact .inl ⟨c, rest, collection, rfl⟩
    · rw [not_or] at collection
      obtain ⟨front, whole, scalar, shorter, alone⟩ :=
        readValue_front success collection.1 collection.2
      exact .inr ⟨c :: front, scalar, whole, readAll_of_readValue scalar.graphic alone⟩

/-- A text that is read as a value starts a collection or is the text of a scalar, with space around
it; the scalar alone is read as the same value. -/
theorem readAll_cases (success : readAll cs = .ok value) :
    ∃ before, IsBlank before ∧
      ((∃ c behind, (c = '[' ∨ c = '\x7b') ∧ cs = before ++ c :: behind) ∨
        ∃ scalar behind, IsBlank behind ∧ IsScalar scalar ∧ cs = before ++ scalar ++ behind ∧
          readAll scalar = .ok value) := by
  have spaced : cs = cs.takeWhile isSpace ++ skipSpace cs := List.takeWhile_append_dropWhile.symm
  refine ⟨cs.takeWhile isSpace, fun _ member => List.mem_takeWhile_imp member, ?_⟩
  rw [readAll] at success
  split at success
  · cases success
  obtain ⟨found, first, success⟩ := Attempt.bind_eq_ok_iff.mp success
  split at success
  · next finished =>
    cases success
    rcases readValue_cases first with ⟨c, behind, collection, opened⟩ | ⟨scalar, text, whole, alone⟩
    · exact .inl ⟨c, behind, collection, by rw [← opened, ← spaced]⟩
    · refine .inr ⟨scalar, found.rest, List.dropWhile_eq_nil_iff.mp finished, text, ?_, alone⟩
      rw [List.append_assoc, ← whole, ← spaced]
  · cases success

end Values

end SchemaAtlas.Json
