import SchemaAtlas.Json.Reader
import Mathlib.Data.List.Basic

/-! # Written strings are read back

Every character of a written string is read as itself: the short escapes are inverses of each other,
a character of the basic plane is one unit in hexadecimal, and any other character is a pair of
units. So a quoted text is read as that text, whatever follows it.
-/

namespace SchemaAtlas.Json

open Document (hexadecimal)

section Hexadecimal

theorem hexDigit?_digitChar : ∀ digit < 16, hexDigit? (Nat.digitChar digit) = some digit := by
  decide

/-- The four digits of a 16-bit unit. -/
theorem toList_hexadecimal {unit : Nat} (bound : unit < 0x10000) :
    (hexadecimal 4 unit).toList =
      [Nat.digitChar (unit / 4096), Nat.digitChar (unit / 256 % 16),
        Nat.digitChar (unit / 16 % 16), Nat.digitChar (unit % 16)] := by
  have short {n : Nat} (small : n < 16) : Nat.toDigits 16 n = [Nat.digitChar n] :=
    Nat.toDigits_of_lt_base small
  have long {n : Nat} (large : 16 ≤ n) :
      Nat.toDigits 16 n = Nat.toDigits 16 (n / 16) ++ [Nat.digitChar (n % 16)] :=
    Nat.toDigits_of_base_le (by decide) large
  have padded (digits : List Char) : (Decimal.padded 4 (String.ofList digits)).toList =
      List.replicate (4 - digits.length) '0' ++ digits := by
    simp [Decimal.padded]
  have zero : Nat.digitChar 0 = '0' := rfl
  rw [hexadecimal, padded]
  -- one case for each number of digits that are left after the zeros in front
  by_cases one : unit < 16
  · rw [short one, show unit / 4096 = 0 by omega, show unit / 256 % 16 = 0 by omega,
      show unit / 16 % 16 = 0 by omega, show unit % 16 = unit by omega, zero]
    rfl
  rw [long (by omega)]
  by_cases two : unit < 256
  · rw [short (by omega), show unit / 4096 = 0 by omega, show unit / 256 % 16 = 0 by omega,
      show unit / 16 % 16 = unit / 16 by omega, zero]
    rfl
  rw [long (by omega)]
  by_cases three : unit < 4096
  · rw [short (by omega), show unit / 4096 = 0 by omega,
      show unit / 256 % 16 = unit / 16 / 16 by omega, zero]
    rfl
  rw [long (by omega), short (by omega), show unit / 4096 = unit / 16 / 16 / 16 by omega,
    show unit / 256 % 16 = unit / 16 / 16 % 16 by omega]
  rfl

theorem hexUnit?_digits {unit : Nat} (bound : unit < 0x10000) :
    hexUnit? (Nat.digitChar (unit / 4096)) (Nat.digitChar (unit / 256 % 16))
      (Nat.digitChar (unit / 16 % 16)) (Nat.digitChar (unit % 16)) = some unit := by
  have first := hexDigit?_digitChar (unit / 4096) (by omega)
  have second := hexDigit?_digitChar (unit / 256 % 16) (by omega)
  have third := hexDigit?_digitChar (unit / 16 % 16) (by omega)
  have fourth := hexDigit?_digitChar (unit % 16) (by omega)
  have value : unit / 4096 * 4096 + unit / 256 % 16 * 256 + unit / 16 % 16 * 16 + unit % 16 =
      unit := by omega
  simp [hexUnit?, first, second, third, fourth, value]

end Hexadecimal

section Units

/-- A first half of a pair has the second half, as an escape and not at the end, behind it. -/
def Pairs (high low : Nat) (cs rest : List Char) : Prop :=
  ∃ e f g h, cs = '\\' :: 'u' :: e :: f :: g :: h :: rest ∧ rest ≠ [] ∧ hexUnit? e f g h = some low ∧
    isHighUnit high = true ∧ isLowUnit low = true

/-- The digits in front of a text are an escaped unit that stands alone, or the first half of a pair
with the second behind it. -/
inductive HoldsUnit : List Char → Char → List Char → Prop where
  | alone {a b c d : Char} {unit : Nat} {rest : List Char} (digits : hexUnit? a b c d = some unit)
      (inside : rest ≠ []) (alone : ∀ low more, ¬ Pairs unit low rest more) :
      HoldsUnit (a :: b :: c :: d :: rest) (unitChar unit) rest
  | pair {a b c d : Char} {high low : Nat} {cs rest : List Char}
      (digits : hexUnit? a b c d = some high) (pairs : Pairs high low cs rest) :
      HoldsUnit (a :: b :: c :: d :: cs) (pairChar high low) rest

/-- Whatever second half there is, it is the one that is looked at. -/
theorem Pairs.second {high low : Nat} {e f g h : Char} {cs rest : List Char}
    (pairs : Pairs high low ('\\' :: 'u' :: e :: f :: g :: h :: cs) rest) :
    hexUnit? e f g h = some low ∧ isHighUnit high = true ∧ isLowUnit low = true := by
  obtain ⟨_, _, _, _, same, _, second, both⟩ := pairs
  simp only [List.cons.injEq, true_and] at same
  obtain ⟨rfl, rfl, rfl, rfl, rfl⟩ := same
  exact ⟨second, both⟩

theorem HoldsUnit.reads {cs rest : List Char} {c : Char} (held : HoldsUnit cs c rest) :
    ∃ shorter, readUnit? cs = some ⟨c, rest, shorter⟩ := by
  cases held with
  | @alone a b c d unit rest digits inside alone =>
    obtain ⟨next, rest, rfl⟩ := List.exists_cons_of_ne_nil inside
    refine ⟨by simp only [List.length_cons]; omega, ?_⟩
    unfold readUnit?
    simp only [digits, Option.bind_eq_bind, Option.bind_some]
    split
    · next e f g h last more same =>
      split
      · next low known =>
        refine if_neg fun both => alone low (last :: more) ?_
        rw [Bool.and_eq_true] at both
        exact ⟨e, f, g, h, same, List.cons_ne_nil _ _, known, both⟩
      · rfl
    · rfl
  | @pair a b c d high low cs rest digits pairs =>
    obtain ⟨e, f, g, h, rfl, inside, second, first, last⟩ := pairs
    obtain ⟨next, rest, rfl⟩ := List.exists_cons_of_ne_nil inside
    refine ⟨by simp only [List.length_cons]; omega, ?_⟩
    simp only [readUnit?, digits, second, first, last, Option.bind_eq_bind, Option.bind_some]
    rfl

theorem holdsUnit_of_readUnit? {cs : List Char} {unit : Read Char cs}
    (success : readUnit? cs = some unit) : HoldsUnit cs unit.value unit.rest := by
  unfold readUnit? at success
  split at success
  · next a b c d next rest =>
    obtain ⟨value, digits, success⟩ := Option.bind_eq_some_iff.mp success
    split at success
    · next e f g h last more same =>
      split at success
      · next low known =>
        split at success
        · next both =>
          obtain rfl := Option.some.inj success
          dsimp only
          rw [Bool.and_eq_true] at both
          exact .pair digits ⟨e, f, g, h, same, List.cons_ne_nil _ _, known, both⟩
        · next single =>
          obtain rfl := Option.some.inj success
          refine .alone digits (List.cons_ne_nil _ _) fun other behind pairs => single ?_
          obtain ⟨second, both⟩ := (same ▸ pairs).second
          cases known.symm.trans second
          rw [Bool.and_eq_true]
          exact both
      · next unknown =>
        obtain rfl := Option.some.inj success
        refine .alone digits (List.cons_ne_nil _ _) fun other behind pairs => ?_
        cases unknown.symm.trans (same ▸ pairs).second.1
    · next other =>
      obtain rfl := Option.some.inj success
      refine .alone digits (List.cons_ne_nil _ _) ?_
      rintro low more ⟨e, f, g, h, same, inside, _⟩
      obtain ⟨last, more, rfl⟩ := List.exists_cons_of_ne_nil inside
      exact other _ _ _ _ _ _ same
  · cases success

/-- A unit that is no first half of a pair is read alone, whatever follows. -/
theorem readUnit?_alone {unit : Nat} (bound : unit < 0x10000) (alone : isHighUnit unit = false)
    (next : Char) (rest : List Char) :
    ∃ shorter, readUnit? ((hexadecimal 4 unit).toList ++ next :: rest) =
      some ⟨unitChar unit, next :: rest, shorter⟩ := by
  rw [toList_hexadecimal bound]
  refine (HoldsUnit.alone (hexUnit?_digits bound) (List.cons_ne_nil _ _) ?_).reads
  rintro low more ⟨_, _, _, _, _, _, _, first, _⟩
  cases alone.symm.trans first

/-- The two halves of a pair are read together. -/
theorem readUnit?_pair {high low : Nat} (highBound : high < 0x10000) (lowBound : low < 0x10000)
    (first : isHighUnit high = true) (second : isLowUnit low = true)
    (next : Char) (rest : List Char) :
    ∃ shorter, readUnit? ((hexadecimal 4 high).toList ++ (unitEscape low ++ next :: rest)) =
      some ⟨pairChar high low, next :: rest, shorter⟩ := by
  have escape : unitEscape low ++ next :: rest =
      '\\' :: 'u' :: ((hexadecimal 4 low).toList ++ next :: rest) := by
    simp [unitEscape]
  rw [escape, toList_hexadecimal highBound, toList_hexadecimal lowBound]
  exact (HoldsUnit.pair (hexUnit?_digits highBound)
    ⟨_, _, _, _, rfl, List.cons_ne_nil _ _, hexUnit?_digits lowBound, first, second⟩).reads

end Units

section Characters

/-- The characters in front of a text are the inside of a string, up to what follows its quote. -/
def HoldsString (opening : Nat) (cs text rest : List Char) : Prop :=
  ∃ shorter, readString opening cs = .ok ⟨text, rest, shorter⟩

variable {opening : Nat} {cs text rest : List Char} {c : Char}

theorem holdsString_end : HoldsString opening ('"' :: rest) [] rest := by
  refine ⟨length_lt_cons _ _, ?_⟩
  rw [readString.eq_def]
  dsimp only
  rw [if_pos rfl]

/-- A character that needs no escape stands for itself. -/
theorem holdsString_raw (quote : c ≠ '"') (backslash : c ≠ '\\') (printable : 32 ≤ c.toNat)
    (behind : HoldsString opening cs text rest) :
    HoldsString opening (c :: cs) (c :: text) rest := by
  obtain ⟨shorter, success⟩ := behind
  refine ⟨Nat.lt_trans shorter (length_lt_cons _ _), ?_⟩
  rw [readString.eq_def]
  dsimp only
  rw [if_neg quote, if_neg backslash, if_neg (by omega), success]
  rfl

theorem holdsString_short {letter : Char} (short : shortEscape? letter = some c)
    (noUnit : letter ≠ 'u') (behind : HoldsString opening cs text rest) :
    HoldsString opening ('\\' :: letter :: cs) (c :: text) rest := by
  obtain ⟨shorter, success⟩ := behind
  refine ⟨Nat.lt_trans shorter (length_lt_cons_cons _ _ _), ?_⟩
  rw [readString, if_neg (by decide), if_pos rfl]
  dsimp only
  rw [if_neg noUnit, short]
  dsimp only
  rw [success]
  rfl

theorem holdsString_unit {digits : List Char}
    (unit : ∃ shorter, readUnit? digits = some ⟨c, cs, shorter⟩)
    (behind : HoldsString opening cs text rest) :
    HoldsString opening ('\\' :: 'u' :: digits) (c :: text) rest := by
  obtain ⟨fewer, unit⟩ := unit
  obtain ⟨shorter, success⟩ := behind
  refine ⟨Nat.lt_trans shorter (Nat.lt_trans fewer (length_lt_cons_cons _ _ _)), ?_⟩
  rw [readString, if_neg (by decide), if_pos rfl]
  dsimp only
  rw [if_pos rfl, unit]
  dsimp only
  rw [success]
  rfl

theorem valid_toNat (c : Char) :
    c.toNat < 0xD800 ∨ 0xDFFF < c.toNat ∧ c.toNat < 0x110000 := c.valid

/-- A character as units is read back, alone or from a pair. -/
theorem holdsString_units {next : Char} (behind : HoldsString opening (next :: cs) text rest) :
    HoldsString opening (unitEscapes c.toNat ++ next :: cs) (c :: text) rest := by
  have valid := valid_toNat c
  unfold unitEscapes
  split
  · next basic =>
    have noHigh : isHighUnit c.toNat = false := by
      simp only [isHighUnit, Bool.and_eq_false_iff, decide_eq_false_iff_not]
      omega
    have noLow : isLowUnit c.toNat = false := by
      simp only [isLowUnit, Bool.and_eq_false_iff, decide_eq_false_iff_not]
      omega
    have same : unitChar c.toNat = c := by
      rw [unitChar, noHigh, noLow, Bool.or_self, if_neg (by decide), Char.ofNat_toNat]
    have escape : unitEscape c.toNat ++ next :: cs =
        '\\' :: 'u' :: ((hexadecimal 4 c.toNat).toList ++ next :: cs) := by
      simp [unitEscape]
    have alone := readUnit?_alone basic noHigh next cs
    rw [same] at alone
    rw [escape]
    exact holdsString_unit alone behind
  · next beyond =>
    have first : isHighUnit (0xD800 + (c.toNat - 0x10000) / 0x400) = true := by
      simp only [isHighUnit, Bool.and_eq_true, decide_eq_true_eq]
      omega
    have second : isLowUnit (0xDC00 + (c.toNat - 0x10000) % 0x400) = true := by
      simp only [isLowUnit, Bool.and_eq_true, decide_eq_true_eq]
      omega
    have same : pairChar (0xD800 + (c.toNat - 0x10000) / 0x400)
        (0xDC00 + (c.toNat - 0x10000) % 0x400) = c := by
      rw [pairChar, show 0x10000 + (0xD800 + (c.toNat - 0x10000) / 0x400 - 0xD800) * 0x400 +
        (0xDC00 + (c.toNat - 0x10000) % 0x400 - 0xDC00) = c.toNat by omega, Char.ofNat_toNat]
    have pair := readUnit?_pair (by omega) (by omega) first second next cs
    rw [same] at pair
    have escape (high low : Nat) : (unitEscape high ++ unitEscape low) ++ next :: cs =
        '\\' :: 'u' :: ((hexadecimal 4 high).toList ++ (unitEscape low ++ next :: cs)) := by
      simp [unitEscape]
    rw [escape]
    exact holdsString_unit pair behind

/-- A written character is read as itself. -/
theorem holdsString_escapeChar {next : Char} (c : Char)
    (behind : HoldsString opening (next :: cs) text rest) :
    HoldsString opening (escapeChar c ++ next :: cs) (c :: text) rest := by
  have ofCode {n : Nat} (same : c.toNat = n) : Char.ofNat n = c := by
    rw [← same, Char.ofNat_toNat]
  unfold escapeChar
  split
  · next same =>
    subst same
    exact holdsString_short rfl (by decide) behind
  split
  · next same =>
    subst same
    exact holdsString_short rfl (by decide) behind
  split
  · next same =>
    subst same
    exact holdsString_short rfl (by decide) behind
  split
  · next same =>
    subst same
    exact holdsString_short rfl (by decide) behind
  split
  · next same =>
    subst same
    exact holdsString_short rfl (by decide) behind
  split
  · next same => exact ofCode same ▸ holdsString_short rfl (by decide) behind
  split
  · next same => exact ofCode same ▸ holdsString_short rfl (by decide) behind
  split
  · next quote backslash _ _ _ _ _ printable =>
    have bounds : 32 ≤ c.toNat ∧ c.toNat < 127 := by simpa using printable
    exact holdsString_raw quote backslash bounds.1 behind
  · exact holdsString_units behind

/-- The inside of a quoted text is that text. -/
theorem holdsString_quote (opening : Nat) (text rest : List Char) :
    HoldsString opening (text.flatMap escapeChar ++ '"' :: rest) text rest := by
  -- what follows a character is never empty: another character, or the closing quote
  have nonempty (text : List Char) :
      ∃ next cs, text.flatMap escapeChar ++ '"' :: rest = next :: cs :=
    List.exists_cons_of_ne_nil (by simp)
  induction text with
  | nil => exact holdsString_end
  | cons c text ih =>
    obtain ⟨next, cs, split⟩ := nonempty text
    rw [List.flatMap_cons, List.append_assoc, split]
    exact holdsString_escapeChar c (split ▸ ih)

theorem quote_append (text rest : List Char) :
    quote text ++ rest = '"' :: (text.flatMap escapeChar ++ '"' :: rest) := by
  simp [quote]

end Characters

section Points

/-- A code point inside a written string. Half of a pair, which is no character, is written as the
unit that it is. -/
def escapePoint (n : Nat) : List Char :=
  if isHighUnit n || isLowUnit n then unitEscape n else escapeChar (Char.ofNat n)

/-- The written form of a text of code points, which may hold halves of pairs. -/
def quotedPoints (points : List Nat) : String :=
  String.ofList ('"' :: points.flatMap escapePoint ++ ['"'])

/-- A text of code points with the character of a pair in place of its two halves in a row. -/
def fuse : List Nat → List Nat
  | high :: low :: rest =>
      if isHighUnit high && isLowUnit low then (pairChar high low).toNat :: fuse rest
      else high :: fuse (low :: rest)
  | points => points

theorem escapePoint_toNat (c : Char) : escapePoint c.toNat = escapeChar c := by
  have valid := valid_toNat c
  have whole : (isHighUnit c.toNat || isLowUnit c.toNat) = false := by
    simp only [isHighUnit, isLowUnit, Bool.or_eq_false_iff, Bool.and_eq_false_iff,
      decide_eq_false_iff_not]
    omega
  rw [escapePoint, whole, if_neg Bool.false_ne_true, Char.ofNat_toNat]

/-- Characters are written as in any other string. -/
theorem quotedPoints_toList (s : String) : quotedPoints (s.toList.map Char.toNat) = quoted s := by
  simp only [quotedPoints, quoted, quote, List.flatMap_map, escapePoint_toNat]

/-- A character beyond the basic plane needs units. -/
theorem escapeChar_of_beyond {c : Char} (beyond : 0x10000 ≤ c.toNat) :
    escapeChar c = unitEscapes c.toNat := by
  have other {d : Char} (basic : d.toNat < 0x10000) : c ≠ d := by
    rintro rfl
    omega
  simp only [escapeChar, other (d := '"') (by decide), other (d := '\\') (by decide),
    other (d := '\n') (by decide), other (d := '\r') (by decide), other (d := '\t') (by decide),
    if_false]
  rw [if_neg (by omega), if_neg (by omega), if_neg (by simp; omega)]

/-- The character of a pair is written as the two halves. -/
theorem escapePoint_pairChar {high low : Nat} (first : isHighUnit high = true)
    (second : isLowUnit low = true) :
    escapePoint (pairChar high low).toNat = escapePoint high ++ escapePoint low := by
  have halves : escapePoint high ++ escapePoint low = unitEscape high ++ unitEscape low := by
    rw [escapePoint, escapePoint, first, second, Bool.true_or, Bool.or_true, if_pos rfl, if_pos rfl]
  simp only [isHighUnit, isLowUnit, Bool.and_eq_true, decide_eq_true_eq] at first second
  have valid : (0x10000 + (high - 0xD800) * 0x400 + (low - 0xDC00)).isValidChar :=
    .inr ⟨by omega, by omega⟩
  have code : (pairChar high low).toNat = 0x10000 + (high - 0xD800) * 0x400 + (low - 0xDC00) := by
    rw [pairChar, Char.ofNat, dif_pos valid]
    rfl
  have upper : 0xD800 + ((pairChar high low).toNat - 0x10000) / 0x400 = high := by omega
  have lower : 0xDC00 + ((pairChar high low).toNat - 0x10000) % 0x400 = low := by omega
  rw [halves, escapePoint_toNat, escapeChar_of_beyond (by omega), unitEscapes, if_neg (by omega),
    upper, lower]

/-- Two halves in a row are written as the character that they make, and cannot be told from it. -/
theorem quotedPoints_fuse (points : List Nat) : quotedPoints (fuse points) = quotedPoints points := by
  have same : (fuse points).flatMap escapePoint = points.flatMap escapePoint := by
    fun_induction fuse points with
    | case1 high low rest pair ih =>
      rw [Bool.and_eq_true] at pair
      rw [List.flatMap_cons, ih, escapePoint_pairChar pair.1 pair.2]
      simp
    | case2 high low rest apart ih => rw [List.flatMap_cons, ih, ← List.flatMap_cons]
    | case3 points short => rfl
  rw [quotedPoints, same, quotedPoints]

end Points

end SchemaAtlas.Json
