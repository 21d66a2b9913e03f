import SchemaAtlas.Json.Reader
import SchemaAtlas.Proofs.Attempt
import SchemaAtlas.Proofs.Text.Split
import Mathlib.Data.List.TakeWhile

/-! # Numbers and words

A value that is neither a string nor a collection is read from characters that can be seen, and a
minus in front of it stands before a digit or a letter. These characters alone settle what is read:
the reader looks further only to find where a run ends, and a text that is cut off there ends it too.
-/

namespace SchemaAtlas.Json

open Document

/-- A character of ASCII that can be seen. -/
def IsGraphic (c : Char) : Prop := 32 < c.toNat ∧ c.toNat < 127

instance (c : Char) : Decidable (IsGraphic c) := instDecidableAnd

section Runs

variable {p : Char → Bool} {cs tail : List Char} {c : Char}

/-- Where a run ends does not change when the text behind it ends earlier. -/
theorem run_of_cut (early : tail <+: cs.dropWhile p) :
    (cs.takeWhile p ++ tail).takeWhile p = cs.takeWhile p ∧
      (cs.takeWhile p ++ tail).dropWhile p = tail := by
  have run : ∀ c ∈ cs.takeWhile p, p c = true := fun c member => List.mem_takeWhile_imp member
  have stops : tail.takeWhile p = [] ∧ tail.dropWhile p = tail := by
    obtain ⟨behind, same⟩ := early
    cases tail with
    | nil => exact ⟨rfl, rfl⟩
    | cons c more =>
      have first := List.head?_dropWhile_not p cs
      rw [← same] at first
      have other : ¬ p c = true := by simpa using first
      exact ⟨List.takeWhile_cons_of_neg other, List.dropWhile_cons_of_neg other⟩
  rw [List.takeWhile_append_of_pos run, List.dropWhile_append_of_pos run, stops.1, stops.2,
    List.append_nil]
  exact ⟨rfl, rfl⟩

theorem takeWhile_of_cut (early : tail <+: cs) (none : cs.takeWhile p = []) :
    tail.takeWhile p = [] := by
  obtain ⟨behind, rfl⟩ := early
  cases tail with
  | nil => rfl
  | cons c more =>
    rw [List.cons_append, List.takeWhile_cons] at none
    rw [List.takeWhile_cons]
    split at none
    · cases none
    · next other => rw [if_neg other]

theorem isGraphic_of_isDigit (digit : c.isDigit = true) : IsGraphic c := by
  simp only [Char.isDigit, Bool.and_eq_true, decide_eq_true_eq, UInt32.le_iff_toNat_le] at digit
  exact ⟨Nat.lt_of_lt_of_le (by decide) digit.1, Nat.lt_of_le_of_lt digit.2 (by decide)⟩

theorem isGraphic_takeWhile_isDigit : ∀ c ∈ cs.takeWhile Char.isDigit, IsGraphic c :=
  fun _ member => isGraphic_of_isDigit (List.mem_takeWhile_imp member)

end Runs

section Numbers

variable {cs rest whole : List Char}

theorem readWhole?_front (success : readWhole? cs = some (whole, rest)) :
    cs = whole ++ rest ∧ (∃ d ds, whole = d :: ds ∧ d.isDigit = true) ∧ (∀ c ∈ whole, IsGraphic c) ∧
      ∀ tail, tail <+: rest → readWhole? (whole ++ tail) = some (whole, tail) := by
  unfold readWhole? at success
  split at success
  · cases success
    exact ⟨rfl, ⟨'0', [], rfl, rfl⟩, by simp [IsGraphic], fun tail _ => rfl⟩
  · next c rest noZero =>
    split at success
    · next digit =>
      cases success
      refine ⟨by simp [List.takeWhile_append_dropWhile], ⟨c, _, rfl, digit⟩,
        List.forall_mem_cons.mpr ⟨isGraphic_of_isDigit digit, isGraphic_takeWhile_isDigit⟩,
        fun tail early => ?_⟩
      obtain ⟨taken, left⟩ := run_of_cut early
      rw [List.cons_append]
      unfold readWhole?
      split
      · next same => exact absurd (List.cons.inj same).1 noZero
      · next same =>
        cases same
        rw [if_pos digit, taken, left]
      · next same => cases same
    · cases success
  · cases success

theorem readFraction_cons (c : Char) (cs : List Char) :
    readFraction (c :: cs) =
      if c = '.' ∧ cs.takeWhile Char.isDigit ≠ [] then
        (some (cs.takeWhile Char.isDigit), cs.dropWhile Char.isDigit)
      else (none, c :: cs) := by
  unfold readFraction
  split
  · next same =>
    cases same
    split
    · next none => rw [if_neg fun present => present.2 none]
    · next found => rw [if_pos ⟨rfl, found⟩]
  · next noPoint => rw [if_neg fun present => noPoint cs (by rw [present.1])]

theorem readFraction_front {fraction : Option (List Char)}
    (success : readFraction cs = (fraction, rest)) :
    ∃ front, cs = front ++ rest ∧ (∀ c ∈ front, IsGraphic c) ∧
      ∀ tail, tail <+: rest → readFraction (front ++ tail) = (fraction, tail) := by
  cases cs with
  | nil =>
    cases success
    exact ⟨[], rfl, by simp, fun tail early => by rw [List.prefix_nil.mp early]; rfl⟩
  | cons c cs =>
    rw [readFraction_cons] at success
    split at success
    · next present =>
      obtain ⟨rfl, filled⟩ := present
      cases success
      refine ⟨'.' :: cs.takeWhile Char.isDigit, by simp,
        List.forall_mem_cons.mpr ⟨by decide, isGraphic_takeWhile_isDigit⟩, fun tail early => ?_⟩
      obtain ⟨taken, left⟩ := run_of_cut early
      rw [List.cons_append, readFraction_cons, taken, left, if_pos ⟨rfl, filled⟩]
    · next absent =>
      cases success
      refine ⟨[], rfl, by simp, fun tail early => ?_⟩
      cases tail with
      | nil => rfl
      | cons d more =>
        obtain ⟨rfl, behindEarly⟩ := List.cons_prefix_cons.mp early
        rw [List.nil_append, readFraction_cons]
        refine if_neg fun present => absent ⟨present.1, fun none => present.2 ?_⟩
        exact takeWhile_of_cut behindEarly none

theorem readSign_cons (c : Char) (cs : List Char) :
    readSign (c :: cs) =
      if c = '-' then (true, cs) else if c = '+' then (false, cs) else (false, c :: cs) := by
  unfold readSign
  split
  · next same =>
    cases same
    rw [if_pos rfl]
  · next same =>
    cases same
    rw [if_neg (by decide), if_pos rfl]
  · next noMinus noPlus =>
    rw [if_neg fun same => noMinus cs (by rw [same]), if_neg fun same => noPlus cs (by rw [same])]

/-- A text that is cut off has a sign where the whole text has one, or nothing at all. -/
theorem readSign_of_cut {tail : List Char} (early : tail <+: cs) :
    (readSign tail).2 <+: (readSign cs).2 := by
  cases tail with
  | nil => exact List.nil_prefix
  | cons c more =>
    obtain ⟨behind, rfl⟩ := early
    rw [List.cons_append, readSign_cons, readSign_cons]
    split
    · exact List.prefix_append more behind
    split
    · exact List.prefix_append more behind
    · exact List.prefix_append (c :: more) behind

theorem readSign_front (cs : List Char) :
    ∃ front, cs = front ++ (readSign cs).2 ∧ (∀ c ∈ front, IsGraphic c) ∧
      ∀ tail, tail <+: (readSign cs).2 → tail ≠ [] →
        readSign (front ++ tail) = ((readSign cs).1, tail) := by
  cases cs with
  | nil =>
    exact ⟨[], rfl, by simp, fun tail early filled => absurd (List.prefix_nil.mp early) filled⟩
  | cons c cs =>
    rw [readSign_cons]
    split
    · next minus => exact ⟨[c], rfl, by simp [minus, IsGraphic], fun tail _ _ => by
        rw [List.singleton_append, readSign_cons, if_pos minus]⟩
    split
    · next noMinus plus => exact ⟨[c], rfl, by simp [plus, IsGraphic], fun tail _ _ => by
        rw [List.singleton_append, readSign_cons, if_neg noMinus, if_pos plus]⟩
    · next noMinus noPlus =>
      refine ⟨[], rfl, by simp, fun tail early filled => ?_⟩
      obtain ⟨d, more, rfl⟩ := List.exists_cons_of_ne_nil filled
      obtain ⟨rfl, _⟩ := List.cons_prefix_cons.mp early
      rw [List.nil_append, readSign_cons, if_neg noMinus, if_neg noPlus]

theorem readExponent_cons (mark : Char) (cs : List Char) :
    readExponent (mark :: cs) =
      if (mark = 'e' ∨ mark = 'E') ∧ (readSign cs).2.takeWhile Char.isDigit ≠ [] then
        (some ((readSign cs).1, (readSign cs).2.takeWhile Char.isDigit),
          (readSign cs).2.dropWhile Char.isDigit)
      else (none, mark :: cs) := by
  rw [readExponent]
  split
  · next negative unsigned signed =>
    rw [signed]
    split
    · next digit digits marked found =>
      simp only [Bool.or_eq_true, beq_iff_eq] at marked
      rw [if_pos ⟨marked, by simp [found]⟩, found]
    · next other =>
      refine (if_neg ?_).symm
      rintro ⟨marked, filled⟩
      obtain ⟨digit, digits, found⟩ := List.exists_cons_of_ne_nil filled
      exact other digit digits (by simpa using marked) found

/-- An exponent ends where its digits end, and where the whole text has none, a part of it that is cut
off has none. -/
theorem readExponent_front {exponent : Option (Bool × List Char)}
    (success : readExponent cs = (exponent, rest)) :
    ∃ front, cs = front ++ rest ∧ (∀ c ∈ front, IsGraphic c) ∧
      ∀ tail, tail <+: rest → readExponent (front ++ tail) = (exponent, tail) := by
  cases cs with
  | nil =>
    cases success
    exact ⟨[], rfl, by simp, fun tail early => by rw [List.prefix_nil.mp early]; rfl⟩
  | cons mark cs =>
    rw [readExponent_cons] at success
    split at success
    · next present =>
      obtain ⟨marked, filled⟩ := present
      cases success
      obtain ⟨sign, split, graphic, settles⟩ := readSign_front cs
      refine ⟨mark :: (sign ++ (readSign cs).2.takeWhile Char.isDigit), ?_, ?_, fun tail early => ?_⟩
      · conv_lhs => rw [split]
        simp
      · rw [List.forall_mem_cons, List.forall_mem_append]
        refine ⟨?_, graphic, isGraphic_takeWhile_isDigit⟩
        rcases marked with rfl | rfl <;> decide
      · obtain ⟨taken, left⟩ := run_of_cut early
        have signed := settles ((readSign cs).2.takeWhile Char.isDigit ++ tail) (by
          obtain ⟨behind, same⟩ := early
          exact ⟨behind, by rw [List.append_assoc, same, List.takeWhile_append_dropWhile]⟩)
          (by simp [filled])
        rw [List.cons_append, readExponent_cons, List.append_assoc, signed, taken, left,
          if_pos ⟨marked, filled⟩]
    · next absent =>
      cases success
      refine ⟨[], rfl, by simp, fun tail early => ?_⟩
      cases tail with
      | nil => rfl
      | cons c more =>
        obtain ⟨rfl, behindEarly⟩ := List.cons_prefix_cons.mp early
        rw [List.nil_append, readExponent_cons]
        refine if_neg fun present => absent ⟨present.1, fun none => present.2 ?_⟩
        exact takeWhile_of_cut (readSign_of_cut behindEarly) none

end Numbers

/-- The text of a value that is neither a string nor a collection: it can be seen as a whole and does
not start with two signs. -/
structure IsAtom (cs : List Char) : Prop where
  graphic : ∀ c ∈ cs, IsGraphic c
  opens : ∃ c more, c ≠ '-' ∧ (cs = c :: more ∨ cs = '-' :: c :: more)

section Atoms

variable {cs rest : List Char} {numeral : Numeral} {value : Value}

/-- The digits in front of a text are those of a number, apart from its sign. -/
def HoldsDigits (numeral : Numeral) (cs rest : List Char) : Prop :=
  ∃ behind beyond, readWhole? cs = some (numeral.whole, behind) ∧
    readFraction behind = (numeral.fraction, beyond) ∧
    readExponent beyond = (numeral.exponent, rest)

/-- The sign in front of a number. -/
def Numeral.sign (numeral : Numeral) : List Char := if numeral.negative then ['-'] else []

theorem readNumeral?_eq_some_iff : readNumeral? cs = some (numeral, rest) ↔
    ∃ unsigned, cs = numeral.sign ++ unsigned ∧ HoldsDigits numeral unsigned rest := by
  obtain ⟨negative, whole, fraction, exponent⟩ := numeral
  constructor
  · intro success
    unfold readNumeral? at success
    split at success
    next signed =>
    split at success
    · cases success
    · next found =>
      simp only [Option.some.injEq, Prod.mk.injEq, Numeral.mk.injEq] at success
      obtain ⟨⟨rfl, rfl, rfl, rfl⟩, rfl⟩ := success
      refine ⟨_, ?_, _, _, found, rfl, rfl⟩
      split at signed
      · cases signed
        rfl
      · cases signed
        rfl
  · rintro ⟨unsigned, rfl, behind, beyond, found, broken, scaled⟩
    cases negative with
    | true =>
      simp only [Numeral.sign, if_true, List.singleton_append, readNumeral?, found, broken, scaled]
    | false =>
      have noMinus : ∀ behind, unsigned ≠ '-' :: behind := by
        rintro behind rfl
        cases found
      change readNumeral? unsigned = _
      unfold readNumeral?
      split
      next signed =>
      split at signed
      · next same => exact absurd rfl (noMinus _)
      · cases signed
        simp only [found, broken, scaled]

/-- What is read of a number is settled by its own characters: its parts end where they end in a text
that goes on. -/
theorem readNumeral?_front (success : readNumeral? cs = some (numeral, rest)) :
    ∃ front, cs = front ++ rest ∧ IsAtom front ∧
      ∀ tail, tail <+: rest → readNumeral? (front ++ tail) = some (numeral, tail) := by
  obtain ⟨unsigned, rfl, behind, beyond, found, broken, scaled⟩ :=
    readNumeral?_eq_some_iff.mp success
  obtain ⟨rfl, ⟨d, ds, opens, digit⟩, wholeGraphic, settlesWhole⟩ := readWhole?_front found
  obtain ⟨fraction, rfl, fractionGraphic, settlesFraction⟩ := readFraction_front broken
  obtain ⟨exponent, rfl, exponentGraphic, settlesExponent⟩ := readExponent_front scaled
  refine ⟨numeral.sign ++ (numeral.whole ++ (fraction ++ exponent)), by simp, ⟨?_, ?_⟩,
    fun tail early => ?_⟩
  · simp only [List.forall_mem_append]
    refine ⟨?_, wholeGraphic, fractionGraphic, exponentGraphic⟩
    unfold Numeral.sign
    split <;> simp [IsGraphic]
  · refine ⟨d, ds ++ (fraction ++ exponent), ?_, ?_⟩
    · rintro rfl
      cases digit
    · rw [opens, Numeral.sign]
      split
      · exact .inr rfl
      · exact .inl rfl
  · have exponentEarly : exponent ++ tail <+: exponent ++ rest :=
      (List.prefix_append_right_inj _).mpr early
    have fractionEarly : fraction ++ (exponent ++ tail) <+: fraction ++ (exponent ++ rest) :=
      (List.prefix_append_right_inj _).mpr exponentEarly
    refine readNumeral?_eq_some_iff.mpr ⟨_, ?_, _, _, settlesWhole _ fractionEarly,
      settlesFraction _ exponentEarly, settlesExponent _ early⟩
    simp only [List.append_assoc]

theorem isAtom_of_mem_words : ∀ word ∈ words, IsAtom word.1 := by
  have graphic : ∀ word ∈ words, ∀ c ∈ word.1, IsGraphic c := by simp [words, IsGraphic]
  have letters : ∀ word ∈ words,
      word.1 = "-Infinity".toList ∨ ∃ c more, c ≠ '-' ∧ word.1 = c :: more := by
    simp [words]
  intro word member
  refine ⟨graphic word member, ?_⟩
  rcases letters word member with same | ⟨c, more, letter, same⟩
  · exact ⟨'I', _, by decide, .inr same⟩
  · exact ⟨c, more, letter, .inl same⟩

theorem readWord?_append :
    ∀ word ∈ words, ∀ tail, readWord? (word.1 ++ tail) = some (word.2, tail) := by
  simp only [words, List.forall_mem_cons]
  exact ⟨fun _ => rfl, fun _ => rfl, fun _ => rfl, fun _ => rfl, fun _ => rfl, fun _ => rfl, by simp⟩

theorem readWord?_eq_some (success : readWord? cs = some (value, rest)) :
    ∃ word ∈ words, cs = word.1 ++ rest ∧ word.2 = value := by
  obtain ⟨word, member, opened⟩ := List.exists_of_findSome?_eq_some success
  obtain ⟨left, dropped, same⟩ := Option.map_eq_some_iff.mp opened
  cases same
  exact ⟨word, member, Text.dropOpening?_eq_some_iff.mp dropped, rfl⟩

theorem readWord?_of_cut {tail : List Char} (early : tail <+: cs) (none : readWord? cs = none) :
    readWord? tail = .none := by
  obtain ⟨behind, rfl⟩ := early
  cases found : readWord? tail with
  | none => rfl
  | some read =>
    obtain ⟨word, member, rfl, _⟩ := readWord?_eq_some found
    rw [List.append_assoc, readWord?_append word member] at none
    cases none

theorem readAtom_word (word : readWord? cs = some (value, rest)) (shorter : rest.length < cs.length) :
    readAtom cs = .ok ⟨value, rest, shorter⟩ := by
  simp only [readAtom, word]
  exact dif_pos shorter

theorem readAtom_numeral (noWord : readWord? cs = none)
    (read : readNumeral? cs = some (numeral, rest)) (valued : numeral.value = .ok value)
    (shorter : rest.length < cs.length) : readAtom cs = .ok ⟨value, rest, shorter⟩ := by
  simp only [readAtom, noWord, read]
  rw [dif_pos shorter, valued]
  rfl

theorem IsAtom.shorter (atom : IsAtom cs) (tail : List Char) :
    tail.length < (cs ++ tail).length := by
  obtain ⟨c, more, _, rfl | rfl⟩ := atom.opens <;>
    simp only [List.cons_append, List.length_cons, List.length_append] <;> omega

/-- What is read of a value that is neither a string nor a collection is settled by the characters of
an atom. -/
theorem readAtom_front {found : Read Value cs} (success : readAtom cs = .ok found) :
    ∃ front, cs = front ++ found.rest ∧ IsAtom front ∧ ∀ tail, tail <+: found.rest →
      ∃ shorter, readAtom (front ++ tail) = .ok ⟨found.value, tail, shorter⟩ := by
  unfold readAtom at success
  split at success
  · next known =>
    obtain ⟨word, member, rfl, rfl⟩ := readWord?_eq_some known
    have atom := isAtom_of_mem_words word member
    split at success
    · cases success
      exact ⟨word.1, rfl, atom, fun tail _ =>
        ⟨atom.shorter tail, readAtom_word (readWord?_append word member tail) _⟩⟩
    · cases success
  · next noWord =>
    split at success
    · cases success
    · next read =>
      obtain ⟨front, rfl, atom, settles⟩ := readNumeral?_front read
      split at success
      · obtain ⟨value, valued, success⟩ := Attempt.bind_eq_ok_iff.mp success
        cases success
        refine ⟨front, rfl, atom, fun tail early => ⟨atom.shorter tail, ?_⟩⟩
        have wholeEarly := (List.prefix_append_right_inj front).mpr early
        exact readAtom_numeral (readWord?_of_cut wholeEarly noWord) (settles tail early) valued _
      · cases success

end Atoms

end SchemaAtlas.Json
