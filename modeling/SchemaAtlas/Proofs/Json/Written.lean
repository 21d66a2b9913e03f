import SchemaAtlas.Proofs.Document.Entries
import SchemaAtlas.Proofs.Json.String

/-! # Written values are read back

A text writes a value when the reader takes exactly this value from the front of anything that begins
with the text. Lists and objects are put together from what writes their parts, with any space where
the reader skips it; so a text that is assembled by hand is read back piece by piece.
-/

namespace SchemaAtlas.Json

open Document

/-- Whether a character opens a string, a list or an object. -/
def opensValue (c : Char) : Bool := c == '"' || c == '[' || c == '\x7b'

/-- Nothing but space. -/
def IsBlank (cs : List Char) : Prop := ∀ c ∈ cs, isSpace c = true

/-- A text that is read as a value, whatever follows it. -/
structure Writes (cs : List Char) (value : Value) : Prop where
  opens : ∃ c inside, cs = c :: inside ∧ opensValue c = true
  reads : ∀ rest, ∃ shorter, readValue (cs ++ rest) = .ok ⟨value, rest, shorter⟩

/-- A text that is read as the items of a list, up to its closing bracket. -/
structure WritesItems (cs : List Char) (items : List Value) : Prop where
  opens : ∃ c inside, cs = c :: inside ∧ opensValue c = true
  reads : ∀ rest, ∃ shorter, readItems (cs ++ rest) = .ok ⟨items, rest, shorter⟩

/-- A text that is read as the members of an object, up to its closing brace. -/
structure WritesMembers (cs : List Char) (members : List (String × Value)) : Prop where
  opens : ∃ inside, cs = '"' :: inside
  reads : ∀ rest, ∃ shorter, readMembers (cs ++ rest) = .ok ⟨Entries.named members, rest, shorter⟩

section Marks

variable {ws : List Char} {c closing : Char}

theorem isBlank_nil : IsBlank [] := by simp [IsBlank]

theorem isBlank_single : IsBlank [' '] := by simp [IsBlank, isSpace]

theorem isSpace_of_opensValue (opens : opensValue c = true) : isSpace c = false := by
  simp only [opensValue, Bool.or_eq_true, beq_iff_eq] at opens
  rcases opens with (rfl | rfl) | rfl <;> rfl

theorem skipSpace_append {rest : List Char} (blank : IsBlank ws) (mark : isSpace c = false) :
    skipSpace (ws ++ c :: rest) = c :: rest := by
  rw [skipSpace, List.dropWhile_append_of_pos blank, List.dropWhile_cons_of_neg (by simp [mark])]

theorem readMark_closing (blank : IsBlank ws) (mark : isSpace closing = false) (rest : List Char) :
    ∃ shorter, readMark closing (ws ++ closing :: rest) = .ok ⟨false, rest, shorter⟩ := by
  refine ⟨by simp only [List.length_append, List.length_cons]; omega, ?_⟩
  unfold readMark
  split
  · next d more spaced =>
    rw [skipSpace_append blank mark] at spaced
    cases spaced
    rw [if_pos rfl]
  · next spaced =>
    rw [skipSpace_append blank mark] at spaced
    cases spaced

theorem readMark_comma (blank : IsBlank ws) (mark : isSpace c = false) (differs : closing ≠ ',')
    (rest : List Char) :
    ∃ shorter, readMark closing (',' :: (ws ++ c :: rest)) = .ok ⟨true, c :: rest, shorter⟩ := by
  have comma : skipSpace (',' :: (ws ++ c :: rest)) = ',' :: (ws ++ c :: rest) := rfl
  refine ⟨by simp only [List.length_append, List.length_cons]; omega, ?_⟩
  unfold readMark
  split
  · next d more spaced =>
    rw [comma] at spaced
    cases spaced
    rw [if_neg (Ne.symm differs), if_pos rfl]
    simp only [skipSpace_append blank mark]
  · next spaced =>
    rw [comma] at spaced
    cases spaced

theorem readName_quote (name rest : List Char) :
    ∃ shorter, readName (quote name ++ rest) = .ok ⟨name, rest, shorter⟩ := by
  rw [quote_append]
  obtain ⟨shorter, success⟩ :=
    holdsString_quote ((name.flatMap escapeChar ++ '"' :: rest).length + 1) name rest
  refine ⟨Nat.lt_trans shorter (length_lt_cons _ _), ?_⟩
  rw [readName, success]
  rfl

theorem readColon_blank (mark : isSpace c = false) (rest : List Char) :
    ∃ shorter, readColon (':' :: ' ' :: c :: rest) = .ok ⟨(), c :: rest, shorter⟩ := by
  have colon : skipSpace (':' :: ' ' :: c :: rest) = ':' :: ' ' :: c :: rest := rfl
  refine ⟨by simp only [List.length_cons]; omega, ?_⟩
  unfold readColon
  split
  · next more spaced =>
    rw [colon] at spaced
    cases spaced
    have blank : skipSpace (' ' :: c :: rest) = c :: rest := skipSpace_append isBlank_single mark
    simp only [blank]
  · next other => exact absurd colon (other _)

end Marks

section Parts

variable {ws cs more : List Char} {value : Value} {items : List Value}

theorem writes_quote (s : String) : Writes (quote s.toList) (.text s) := by
  refine ⟨⟨'"', _, rfl, rfl⟩, fun rest => ?_⟩
  rw [quote_append]
  obtain ⟨shorter, success⟩ := holdsString_quote
    ((s.toList.flatMap escapeChar ++ '"' :: rest).length + 1) s.toList rest
  refine ⟨Nat.lt_trans shorter (length_lt_cons _ _), ?_⟩
  rw [readValue, if_pos rfl, success]
  simp [bind, Except.bind, pure, Except.pure]

theorem writes_quoted (s : String) : Writes (quoted s).toList (.text s) := by
  rw [quoted, String.toList_ofList]
  exact writes_quote s

/-- The last item of a list, with its closing bracket. -/
theorem writesItems_last (written : Writes cs value) (blank : IsBlank ws) :
    WritesItems (cs ++ (ws ++ [']'])) [value] := by
  obtain ⟨c, inside, rfl, opens⟩ := written.opens
  refine ⟨⟨c, _, rfl, opens⟩, fun rest => ?_⟩
  have split : c :: inside ++ (ws ++ [']']) ++ rest = c :: inside ++ (ws ++ ']' :: rest) := by simp
  rw [split]
  obtain ⟨fewer, mark⟩ := readMark_closing blank (rfl : isSpace ']' = false) rest
  obtain ⟨shorter, success⟩ := written.reads (ws ++ ']' :: rest)
  refine ⟨Nat.lt_trans fewer shorter, ?_⟩
  rw [readItems, success]
  dsimp only [bind, Except.bind]
  rw [mark]
  rfl

/-- An item in front of further ones. -/
theorem writesItems_cons (written : Writes cs value) (blank : IsBlank ws)
    (behind : WritesItems more items) :
    WritesItems (cs ++ (',' :: (ws ++ more))) (value :: items) := by
  obtain ⟨c, inside, rfl, opens⟩ := written.opens
  obtain ⟨d, beyond, rfl, opensNext⟩ := behind.opens
  refine ⟨⟨c, _, rfl, opens⟩, fun rest => ?_⟩
  have split : c :: inside ++ (',' :: (ws ++ d :: beyond)) ++ rest =
      c :: inside ++ (',' :: (ws ++ d :: (beyond ++ rest))) := by simp
  rw [split]
  obtain ⟨fewest, others⟩ : ∃ shorter, readItems (d :: (beyond ++ rest)) =
    .ok ⟨items, rest, shorter⟩ := behind.reads rest
  obtain ⟨fewer, mark⟩ := readMark_comma blank
    (isSpace_of_opensValue opensNext) (by decide : ']' ≠ ',') (beyond ++ rest)
  obtain ⟨shorter, success⟩ := written.reads (',' :: (ws ++ d :: (beyond ++ rest)))
  refine ⟨Nat.lt_trans fewest (Nat.lt_trans fewer shorter), ?_⟩
  rw [readItems, success]
  dsimp only [bind, Except.bind]
  rw [mark]
  dsimp only
  rw [if_pos rfl, others]
  rfl

/-- A list that is not empty, with space behind its bracket. -/
theorem writes_list (blank : IsBlank ws) (behind : WritesItems more items) :
    Writes ('[' :: (ws ++ more)) (.list items) := by
  obtain ⟨c, inside, rfl, opens⟩ := behind.opens
  refine ⟨⟨'[', _, rfl, rfl⟩, fun rest => ?_⟩
  have split : '[' :: (ws ++ c :: inside) ++ rest = '[' :: (ws ++ c :: (inside ++ rest)) := by simp
  rw [split]
  have skipped : skipSpace (ws ++ c :: (inside ++ rest)) = c :: (inside ++ rest) :=
    skipSpace_append blank (isSpace_of_opensValue opens)
  obtain ⟨shorter, success⟩ : ∃ shorter, readItems (skipSpace (ws ++ c :: (inside ++ rest))) =
      .ok ⟨items, rest, shorter⟩ := by
    rw [skipped]
    exact behind.reads rest
  have fewer : rest.length < ('[' :: (ws ++ c :: (inside ++ rest))).length := by
    rw [skipped] at shorter
    simp only [List.length_append, List.length_cons] at shorter ⊢
    omega
  refine ⟨fewer, ?_⟩
  rw [readValue, if_neg (by decide), if_pos rfl]
  split
  · next after spaced =>
    rw [skipped] at spaced
    cases spaced
    cases opens
  · rw [success]
    rfl

end Parts

section Members

variable {ws cs more : List Char} {value : Value} {name : String}
  {members : List (String × Value)}

/-- The last member of an object, with its closing brace. -/
theorem writesMembers_last (written : Writes cs value) (blank : IsBlank ws) :
    WritesMembers (quote name.toList ++ (':' :: ' ' :: (cs ++ (ws ++ ['\x7d'])))) [(name, value)] := by
  obtain ⟨c, inside, rfl, opens⟩ := written.opens
  refine ⟨⟨_, rfl⟩, fun rest => ?_⟩
  have split : quote name.toList ++ (':' :: ' ' :: (c :: inside ++ (ws ++ ['\x7d']))) ++ rest =
      quote name.toList ++ (':' :: ' ' :: c :: (inside ++ (ws ++ '\x7d' :: rest))) := by simp
  rw [split]
  obtain ⟨fewest, mark⟩ := readMark_closing blank (rfl : isSpace '\x7d' = false) rest
  obtain ⟨fewer, success⟩ : ∃ shorter, readValue (c :: (inside ++ (ws ++ '\x7d' :: rest))) =
    .ok ⟨value, ws ++ '\x7d' :: rest, shorter⟩ := written.reads (ws ++ '\x7d' :: rest)
  obtain ⟨few, colon⟩ := readColon_blank (isSpace_of_opensValue opens)
    (inside ++ (ws ++ '\x7d' :: rest))
  obtain ⟨shorter, named⟩ := readName_quote name.toList
    (':' :: ' ' :: c :: (inside ++ (ws ++ '\x7d' :: rest)))
  refine ⟨Nat.lt_trans fewest (Nat.lt_trans fewer (Nat.lt_trans few shorter)), ?_⟩
  rw [readMembers, named]
  dsimp only [bind, Except.bind]
  rw [colon]
  dsimp only
  rw [success]
  dsimp only
  rw [mark]
  simp [pure, Except.pure]

/-- A member in front of further ones. -/
theorem writesMembers_cons (written : Writes cs value) (blank : IsBlank ws)
    (behind : WritesMembers more members) :
    WritesMembers (quote name.toList ++ (':' :: ' ' :: (cs ++ (',' :: (ws ++ more)))))
      ((name, value) :: members) := by
  obtain ⟨c, inside, rfl, opens⟩ := written.opens
  obtain ⟨beyond, rfl⟩ := behind.opens
  refine ⟨⟨_, rfl⟩, fun rest => ?_⟩
  have split : quote name.toList ++ (':' :: ' ' :: (c :: inside ++ (',' :: (ws ++ '"' :: beyond)))) ++
        rest = quote name.toList ++
      (':' :: ' ' :: c :: (inside ++ (',' :: (ws ++ '"' :: (beyond ++ rest))))) := by simp
  rw [split]
  obtain ⟨last, others⟩ : ∃ shorter, readMembers ('"' :: (beyond ++ rest)) =
    .ok ⟨Entries.named members, rest, shorter⟩ := behind.reads rest
  obtain ⟨fewest, mark⟩ := readMark_comma blank
    (rfl : isSpace '"' = false) (by decide : '\x7d' ≠ ',') (beyond ++ rest)
  obtain ⟨fewer, success⟩ : ∃ shorter,
      readValue (c :: (inside ++ (',' :: (ws ++ '"' :: (beyond ++ rest))))) =
        .ok ⟨value, ',' :: (ws ++ '"' :: (beyond ++ rest)), shorter⟩ :=
    written.reads (',' :: (ws ++ '"' :: (beyond ++ rest)))
  obtain ⟨few, colon⟩ := readColon_blank (isSpace_of_opensValue opens)
    (inside ++ (',' :: (ws ++ '"' :: (beyond ++ rest))))
  obtain ⟨shorter, named⟩ := readName_quote name.toList
    (':' :: ' ' :: c :: (inside ++ (',' :: (ws ++ '"' :: (beyond ++ rest)))))
  refine ⟨Nat.lt_trans last (Nat.lt_trans fewest (Nat.lt_trans fewer (Nat.lt_trans few shorter))),
    ?_⟩
  rw [readMembers, named]
  dsimp only [bind, Except.bind]
  rw [colon]
  dsimp only
  rw [success]
  dsimp only
  rw [mark]
  dsimp only
  rw [if_pos rfl, others]
  simp [pure, Except.pure]

/-- An object without members, with space behind its brace. -/
theorem writes_empty (blank : IsBlank ws) : Writes ('\x7b' :: (ws ++ ['\x7d'])) (.dict []) := by
  refine ⟨⟨'\x7b', _, rfl, rfl⟩, fun rest => ?_⟩
  have split : '\x7b' :: (ws ++ ['\x7d']) ++ rest = '\x7b' :: (ws ++ '\x7d' :: rest) := by simp
  rw [split]
  have skipped : skipSpace (ws ++ '\x7d' :: rest) = '\x7d' :: rest := skipSpace_append blank rfl
  refine ⟨by simp only [List.length_append, List.length_cons]; omega, ?_⟩
  rw [readValue, if_neg (by decide), if_neg (by decide), if_pos rfl]
  split
  · next after spaced =>
    rw [skipped] at spaced
    cases spaced
    rfl
  · next other => exact absurd skipped (other _)

/-- An object with members of different names, with space behind its brace. -/
theorem writes_object (nodup : (members.map Prod.fst).Nodup) (blank : IsBlank ws)
    (behind : WritesMembers more members) :
    Writes ('\x7b' :: (ws ++ more)) (.dict (Entries.named members)) := by
  obtain ⟨inside, rfl⟩ := behind.opens
  refine ⟨⟨'\x7b', _, rfl, rfl⟩, fun rest => ?_⟩
  have split :
      '\x7b' :: (ws ++ '"' :: inside) ++ rest = '\x7b' :: (ws ++ '"' :: (inside ++ rest)) := by
    simp
  rw [split]
  have skipped : skipSpace (ws ++ '"' :: (inside ++ rest)) = '"' :: (inside ++ rest) :=
    skipSpace_append blank rfl
  obtain ⟨shorter, success⟩ : ∃ shorter, readMembers (skipSpace (ws ++ '"' :: (inside ++ rest))) =
      .ok ⟨Entries.named members, rest, shorter⟩ := by
    rw [skipped]
    exact behind.reads rest
  have fewer : rest.length < ('\x7b' :: (ws ++ '"' :: (inside ++ rest))).length := by
    rw [skipped] at shorter
    simp only [List.length_append, List.length_cons] at shorter ⊢
    omega
  refine ⟨fewer, ?_⟩
  rw [readValue, if_neg (by decide), if_neg (by decide), if_pos rfl]
  split
  · next after spaced =>
    rw [skipped] at spaced
    cases spaced
  · rw [success]
    dsimp only [bind, Except.bind]
    rw [Entries.ofList_named nodup]
    rfl

end Members

/-- A text that writes a value and nothing else is read as this value. -/
theorem read_of_writes {s : String} {value : Value} (written : Writes s.toList value) :
    read s = .ok value := by
  obtain ⟨c, inside, same, opens⟩ := written.opens
  have skipped : skipSpace s.toList = s.toList := by
    rw [same]
    exact skipSpace_append isBlank_nil (isSpace_of_opensValue opens)
  have noMark : ¬ s.toList.head? = some (Char.ofNat 0xFEFF) := by
    rw [same, List.head?_cons]
    intro mark
    cases mark
    cases opens
  obtain ⟨shorter, success⟩ : ∃ shorter, readValue (skipSpace s.toList) =
      .ok ⟨value, [], shorter⟩ := by
    rw [skipped]
    have whole := written.reads []
    rwa [List.append_nil] at whole
  have all : readAll s.toList = .ok value := by
    rw [readAll, if_neg noMark, success]
    rfl
  rw [read, all]
  rfl

theorem read_quoted (s : String) : read (quoted s) = .ok (.text s) :=
  read_of_writes (writes_quoted s)

end SchemaAtlas.Json
