/-! # Characters of YAML

Which characters a text may hold, and where lines, words and documents end. A text is kept as the
list of the characters that are left, so the end of the text is the empty list.
-/

namespace SchemaAtlas.Yaml

/-- A mark that takes no column and may open a text. -/
def byteOrderMark : Char := Char.ofNat 0xFEFF

/-- Characters that a text may hold: no controls but tab and line ends, and no halves of pairs. -/
def isAllowed (c : Char) : Bool :=
  let n := c.toNat
  n == 9 || n == 10 || n == 13 || (0x20 ≤ n && n ≤ 0x7E) || n == 0x85 ||
    (0xA0 ≤ n && n ≤ 0xFFFD) || 0x10000 ≤ n

/-- The characters that end a line. -/
def isBreak (c : Char) : Bool :=
  let n := c.toNat
  n == 10 || n == 13 || n == 0x85 || n == 0x2028 || n == 0x2029

/-- Spaces and tabs. -/
def isWhite (c : Char) : Bool := c == ' ' || c == '\t'

/-- Whether a line ends here. -/
def atLineEnd : List Char → Bool
  | [] => true
  | c :: _ => isBreak c

/-- Whether a space or the end of a line is next. -/
def atSpace : List Char → Bool
  | [] => true
  | c :: _ => c == ' ' || isBreak c

/-- Whether a space, a tab or the end of a line is next. -/
def atBlank : List Char → Bool
  | [] => true
  | c :: _ => isWhite c || isBreak c

/-- The line end in front of a text; all but the two separators count as a line feed. -/
def takeBreak? : List Char → Option (Char × List Char)
  | '\r' :: '\n' :: rest => some ('\n', rest)
  | c :: rest =>
      if !isBreak c then none
      else if c.toNat < 0x2028 then some ('\n', rest)
      else some (c, rest)
  | [] => none

theorem length_of_takeBreak? {cs rest : List Char} {c : Char}
    (taken : takeBreak? cs = some (c, rest)) : rest.length < cs.length := by
  unfold takeBreak? at taken
  split at taken
  · obtain ⟨-, rfl⟩ := Prod.mk.inj (Option.some.inj taken)
    exact Nat.lt_trans (Nat.lt_succ_self _) (Nat.lt_succ_self _)
  · split at taken
    · simp at taken
    · split at taken <;> simp_all
  · simp at taken

/-- Whether a line starts with the three marks that divide documents. -/
def startsDivider : List Char → Bool
  | '-' :: '-' :: '-' :: rest => atBlank rest
  | '.' :: '.' :: '.' :: rest => atBlank rest
  | _ => false

/-- A text without its leading spaces. -/
def skipSpaces (cs : List Char) : List Char := cs.dropWhile (· == ' ')

/-- A text without a comment in front of it. -/
def skipComment (cs : List Char) : List Char :=
  if cs.head? = some '#' then cs.dropWhile fun c => !isBreak c else cs

/-- Letters and digits of ASCII, hyphens and underscores: what names are made of. -/
def isNameCharacter (c : Char) : Bool := c.isAlphanum || c == '-' || c == '_'

end SchemaAtlas.Yaml
