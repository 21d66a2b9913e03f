import SchemaAtlas.Proofs.Diagram.Token
import SchemaAtlas.Proofs.FileName
import SchemaAtlas.Proofs.Text.Split
import Mathlib.Data.List.Chain

/-! # Types as words

A type is shown as its runs of letters and digits, in small letters and in their order, with single
underscores between them; a type without any is unknown. Each step that leads there keeps the runs,
and in the end nothing else is left but what divides them. A text of such runs is shown as it is, so
showing a type twice is showing it once. The same holds for names in diagrams and for stems of files.
-/

namespace SchemaAtlas.Diagram

open Text (glue joined trimBy)

section Runs

variable {c : Char} {cs ds : List Char}

/-- The runs of ASCII letters and digits in a text. -/
def runs (cs : List Char) : List (List Char) :=
  (cs.splitOnP fun c => !c.isAlphanum).filter fun run => !run.isEmpty

/-- Whether a text starts with a letter or a digit. -/
def opensRun (cs : List Char) : Bool := cs.head?.any Char.isAlphanum

theorem runs_of_divider (divider : c.isAlphanum = false) : runs (c :: cs) = runs cs := by
  simp [runs, List.splitOnP_cons_eq_if_modifyHead, divider]

/-- A letter or digit continues the run that the rest opens, or else is a run of its own. -/
theorem runs_letter_cases (letter : c.isAlphanum = true) (cs : List Char) :
    opensRun cs = false ∧ runs (c :: cs) = [c] :: runs cs ∨
      opensRun cs = true ∧ ∃ run others, runs cs = run :: others ∧
        runs (c :: cs) = (c :: run) :: others := by
  cases cs with
  | nil =>
    refine .inl ⟨rfl, ?_⟩
    simp [runs, List.splitOnP_cons_eq_if_modifyHead, letter]
  | cons d rest =>
    obtain ⟨run, others, split⟩ := List.exists_cons_of_ne_nil
      (List.splitOnP_ne_nil (fun c => !c.isAlphanum) rest)
    cases next : d.isAlphanum with
    | true =>
      refine .inr ⟨next, d :: run, others.filter fun run => !run.isEmpty, ?_, ?_⟩
      · simp [runs, List.splitOnP_cons_eq_if_modifyHead, next, split]
      · simp [runs, List.splitOnP_cons_eq_if_modifyHead, letter, next, split]
    | false =>
      refine .inl ⟨next, ?_⟩
      simp [runs, List.splitOnP_cons_eq_if_modifyHead, letter, next]

/-- A character in front adds to the runs of a text by these and by the start of the text alone. -/
theorem runs_cons_congr (same : runs cs = runs ds) (opens : opensRun cs = opensRun ds) (c : Char) :
    runs (c :: cs) = runs (c :: ds) := by
  cases letter : c.isAlphanum with
  | false => rw [runs_of_divider letter, runs_of_divider letter, same]
  | true =>
    rcases runs_letter_cases letter cs with ⟨apart, alone⟩ | ⟨beside, run, others, found, joined⟩
    · rcases runs_letter_cases letter ds with ⟨_, alone'⟩ | ⟨beside', _⟩
      · rw [alone, alone', same]
      · rw [opens, beside'] at apart
        cases apart
    · rcases runs_letter_cases letter ds with ⟨apart', _⟩ | ⟨_, run', others', found', joined'⟩
      · rw [opens, apart'] at beside
        cases beside
      · rw [same, found', List.cons.injEq] at found
        rw [joined, joined', found.1, found.2]

theorem runs_eq_nil_iff : runs cs = [] ↔ ∀ c ∈ cs, c.isAlphanum = false := by
  induction cs with
  | nil => exact iff_of_true rfl (by simp)
  | cons c rest ih =>
    rw [List.forall_mem_cons]
    cases letter : c.isAlphanum with
    | false => rw [runs_of_divider letter, ih, and_iff_right rfl]
    | true =>
      refine iff_of_false ?_ (by simp)
      rcases runs_letter_cases letter rest with ⟨_, alone⟩ | ⟨_, run, others, _, joined⟩
      · simp [alone]
      · simp [joined]

/-- A run is not empty and made of letters and digits. -/
theorem of_mem_runs {run : List Char} (member : run ∈ runs cs) :
    run ≠ [] ∧ ∀ c ∈ run, c.isAlphanum = true := by
  induction cs generalizing run with
  | nil => cases member
  | cons c rest ih =>
    cases letter : c.isAlphanum with
    | false =>
      rw [runs_of_divider letter] at member
      exact ih member
    | true =>
      rcases runs_letter_cases letter rest with ⟨_, alone⟩ | ⟨_, first, others, found, joined⟩
      · rw [alone] at member
        rcases List.mem_cons.mp member with rfl | later
        · exact ⟨List.cons_ne_nil _ _, by simpa using letter⟩
        · exact ih later
      · rw [joined] at member
        rw [found] at ih
        rcases List.mem_cons.mp member with rfl | later
        · exact ⟨List.cons_ne_nil _ _,
            List.forall_mem_cons.mpr ⟨letter, (ih List.mem_cons_self).2⟩⟩
        · exact ih (List.mem_cons_of_mem _ later)

end Runs

section Steps

variable {cs ds : List Char}

theorem runs_append_left (dividers : ∀ c ∈ ds, c.isAlphanum = false) (cs : List Char) :
    runs (ds ++ cs) = runs cs := by
  induction ds with
  | nil => rfl
  | cons c rest ih =>
    obtain ⟨here, dividers⟩ := List.forall_mem_cons.mp dividers
    rw [List.cons_append, runs_of_divider here, ih dividers]

theorem opensRun_append_right (dividers : ∀ c ∈ ds, c.isAlphanum = false) (cs : List Char) :
    opensRun (cs ++ ds) = opensRun cs := by
  cases cs with
  | cons c rest => rfl
  | nil =>
    cases ds with
    | nil => rfl
    | cons d rest => exact dividers d List.mem_cons_self

theorem runs_append_right (dividers : ∀ c ∈ ds, c.isAlphanum = false) (cs : List Char) :
    runs (cs ++ ds) = runs cs := by
  induction cs with
  | nil => exact runs_eq_nil_iff.mpr dividers
  | cons c rest ih => exact runs_cons_congr ih (opensRun_append_right dividers rest) c

/-- Taking characters off the ends that are no letters or digits keeps the runs. -/
theorem runs_trimBy {p : Char → Bool} (apart : ∀ c, p c = true → c.isAlphanum = false)
    (cs : List Char) : runs (trimBy p cs) = runs cs := by
  obtain ⟨before, behind, whole, inside, outside⟩ := Text.exists_trimBy p cs
  have same := runs_append_right (fun c member => apart c (outside c member))
    (before ++ trimBy p cs)
  rw [← whole, runs_append_left fun c member => apart c (inside c member)] at same
  exact same.symm

theorem isAlphanum_eq_false_of_isBlank {c : Char} (blank : Text.isBlank c = true) :
    c.isAlphanum = false := by
  rw [Bool.eq_false_iff]
  intro letter
  rw [Text.isBlank_eq_false_of_apart (by decide) letter] at blank
  cases blank

theorem isAlphanum_eq_false_of_not_token {c : Char} (other : ¬ isTokenChar c = true) :
    c.isAlphanum = false := by
  rw [isTokenChar, Bool.or_eq_true, not_or, Bool.not_eq_true] at other
  exact other.1

theorem opensRun_tokenChars (cs : List Char) : opensRun (tokenChars cs) = opensRun cs := by
  cases cs with
  | nil => rfl
  | cons c rest =>
    change (if isTokenChar c then c else '_').isAlphanum = c.isAlphanum
    split
    · rfl
    · next other => exact (isAlphanum_eq_false_of_not_token other).symm

theorem runs_tokenChars (cs : List Char) : runs (tokenChars cs) = runs cs := by
  induction cs with
  | nil => rfl
  | cons c rest ih =>
    refine (runs_cons_congr ih (opensRun_tokenChars rest) _).trans ?_
    change runs ((if isTokenChar c then c else '_') :: rest) = _
    split
    · rfl
    · next other =>
      rw [runs_of_divider rfl, runs_of_divider (isAlphanum_eq_false_of_not_token other)]

theorem head?_collapse (cs : List Char) : (collapse cs).head? = cs.head? := by
  fun_induction collapse cs with
  | case1 rest ih => exact ih
  | case2 c rest _ _ => rfl
  | case3 => rfl

theorem runs_collapse (cs : List Char) : runs (collapse cs) = runs cs := by
  fun_induction collapse cs with
  | case1 rest ih => exact ih.trans (runs_of_divider rfl).symm
  | case2 c rest _ ih =>
    exact runs_cons_congr ih (by rw [opensRun, head?_collapse, opensRun]) c
  | case3 => rfl

/-- No underscore stands beside another. -/
def Single (cs : List Char) : Prop := cs.IsChain fun a b => ¬ (a = '_' ∧ b = '_')

/-- What stands between other characters has no more doubled underscores than the whole. -/
theorem Single.of_isInfix {part : List Char} (single : Single cs) (inside : part <:+: cs) :
    Single part := by
  obtain ⟨before, behind, rfl⟩ := inside
  exact single.left_of_append.right_of_append

theorem single_collapse (cs : List Char) : Single (collapse cs) := by
  fun_induction collapse cs with
  | case1 rest ih => exact ih
  | case2 c rest alone ih =>
    refine List.isChain_cons.mpr ⟨?_, ih⟩
    intro d first
    rw [head?_collapse] at first
    rintro ⟨rfl, rfl⟩
    obtain ⟨more, rfl⟩ := List.head?_eq_some_iff.mp first
    exact alone more rfl rfl
  | case3 => exact .nil

theorem eq_mark_of_token {c : Char} (token : isTokenChar c = true) (other : c.isAlphanum = false) :
    c = '_' := by
  simpa [isTokenChar, other] using token

theorem dropWhile_of_opensRun (opens : opensRun cs = true) : cs.dropWhile (· == '_') = cs := by
  refine Text.dropWhile_eq_self_iff_head?.mpr fun c first => beq_eq_false_iff_ne.mpr ?_
  rintro rfl
  rw [opensRun, Option.mem_def.mp first] at opens
  cases opens

/-- A text of letters, digits and underscores that does not end in an underscore has a run. -/
theorem runs_ne_nil (token : ∀ c ∈ cs, isTokenChar c = true) (closes : '_' ∉ cs.getLast?)
    (filled : cs ≠ []) : runs cs ≠ [] := by
  intro none
  have last := List.getLast_mem filled
  have mark := eq_mark_of_token (token _ last) (runs_eq_nil_iff.mp none _ last)
  exact closes (mark ▸ List.getLast?_eq_some_getLast filled)

/-- A text of letters, digits and single underscores that does not end in an underscore is made of its
runs, apart from an underscore in front. -/
theorem glue_runs (token : ∀ c ∈ cs, isTokenChar c = true) (single : Single cs)
    (closes : '_' ∉ cs.getLast?) : glue ['_'] (runs cs) = cs.dropWhile (· == '_') := by
  induction cs with
  | nil => rfl
  | cons c rest ih =>
    obtain ⟨here, token⟩ := List.forall_mem_cons.mp token
    obtain ⟨beside, single⟩ := List.isChain_cons.mp single
    have ends : '_' ∉ rest.getLast? := by
      intro last
      exact closes (by rw [List.getLast?_cons, Option.mem_def.mp last]; rfl)
    have behind := ih token single ends
    cases letter : c.isAlphanum with
    | false =>
      obtain rfl := eq_mark_of_token here letter
      rw [runs_of_divider letter, behind, List.dropWhile_cons_of_pos rfl]
    | true =>
      have whole : (c :: rest).dropWhile (· == '_') = c :: rest := dropWhile_of_opensRun letter
      rw [whole]
      rcases runs_letter_cases letter rest with ⟨apart, alone⟩ | ⟨joins, run, others, found, joined⟩
      · rw [alone]
        cases rest with
        | nil => rfl
        | cons d more =>
          -- the run ends here, so what follows it is an underscore with another run behind
          obtain rfl := eq_mark_of_token (token d List.mem_cons_self) apart
          have next : more.dropWhile (· == '_') = more :=
            Text.dropWhile_eq_self_iff_head?.mpr fun d first => beq_eq_false_iff_ne.mpr fun mark =>
              (List.isChain_cons.mp single).1 d first ⟨rfl, mark⟩
          rw [Text.glue_cons _ _ (runs_ne_nil token ends (List.cons_ne_nil _ _)), behind,
            List.dropWhile_cons_of_pos rfl, next]
          rfl
      · rw [joined, Text.glue_cons_cons, ← found, behind, dropWhile_of_opensRun joins]

/-- Underscores taken off the ends, letters, digits and single underscores are their runs. -/
theorem trimUnderscores_eq_glue (token : ∀ c ∈ cs, isTokenChar c = true) (single : Single cs) :
    trimUnderscores cs = glue ['_'] (runs cs) := by
  have marks : ∀ c, (c == '_') = true → c.isAlphanum = false := by
    intro c mark
    rw [beq_iff_eq.mp mark]
    rfl
  have inside := Text.isInfix_trimBy (· == '_') cs
  have closes : '_' ∉ (trimBy (· == '_') cs).getLast? := fun last =>
    absurd (Text.getLast?_trimBy _ _ _ last) (by decide)
  rw [trimUnderscores_eq_trimBy, ← runs_trimBy marks, glue_runs
    (fun c member => token c (inside.subset member)) (single.of_isInfix inside) closes]
  exact (Text.dropWhile_eq_self_iff_head?.mpr (Text.head?_trimBy _ _)).symm

/-- Trimming, replacing, collapsing and trimming again leave the runs and what divides them. -/
theorem cleaned_eq_glue (cs : List Char) :
    trimUnderscores (collapse (tokenChars (Text.trim cs))) = glue ['_'] (runs cs) := by
  have token : ∀ c ∈ collapse (tokenChars (Text.trim cs)), isTokenChar c = true := fun c member =>
    isTokenChar_of_mem_tokenChars (collapse_subset _ member)
  rw [trimUnderscores_eq_glue token (single_collapse _), runs_collapse, runs_tokenChars,
    Text.trim_eq_trimBy, runs_trimBy fun c => isAlphanum_eq_false_of_isBlank]

end Steps

section Words

variable {s : String} {words : List String}

/-- The runs of letters and digits of a string, in small letters. -/
def wordsOf (s : String) : List String :=
  (runs s.toList).map fun run => String.ofList (run.map Char.toLower)

/-- Small letters and digits, at least one. -/
structure IsWord (word : String) : Prop where
  nonempty : word ≠ ""
  chars : ∀ c ∈ word.toList, isRunChar c = true

/-- Words with single underscores between them. -/
def IsTypeName (s : String) : Prop :=
  ∃ words, words ≠ [] ∧ (∀ word ∈ words, IsWord word) ∧ s = joined "_" words

theorem glue_runs_eq_nil_iff (cs : List Char) : glue ['_'] (runs cs) = [] ↔ runs cs = [] := by
  cases found : runs cs with
  | nil => exact iff_of_true rfl rfl
  | cons run others =>
    have filled : run ≠ [] := (of_mem_runs (found ▸ List.mem_cons_self)).1
    refine iff_of_false ?_ (List.cons_ne_nil _ _)
    obtain ⟨c, rest, rfl⟩ := List.exists_cons_of_ne_nil filled
    rw [Text.glue_cons_cons]
    exact List.cons_ne_nil _ _

theorem toList_joined_wordsOf (s : String) :
    (joined "_" (wordsOf s)).toList = (glue ['_'] (runs s.toList)).map Char.toLower := by
  rw [Text.toList_joined, Text.map_glue, wordsOf, List.map_map]
  congr 1
  exact List.map_congr_left fun run _ => String.toList_ofList

/-- A type is shown by its words with single underscores between them, or as unknown without any. -/
theorem typeOf_eq (s : String) :
    typeOf s = if wordsOf s = [] then "unknown" else joined "_" (wordsOf s) := by
  have none : wordsOf s = [] ↔ glue ['_'] (runs s.toList) = [] := by
    rw [wordsOf, List.map_eq_nil_iff, glue_runs_eq_nil_iff]
  rw [typeOf, sanitizeType, cleaned_eq_glue]
  split
  · next empty => rw [if_pos (none.mpr empty), String.ofList_toList]
  · next filled =>
    rw [if_neg (mt none.mp filled), ← toList_joined_wordsOf, String.ofList_toList]

example : typeOf "DECIMAL(10, 2)" = "decimal_10_2" := by decide

theorem isWord_of_mem_wordsOf {word : String} (member : word ∈ wordsOf s) : IsWord word := by
  obtain ⟨run, inside, rfl⟩ := List.mem_map.mp member
  obtain ⟨filled, letters⟩ := of_mem_runs inside
  constructor
  · rwa [Ne, ← String.toList_inj, String.toList_ofList, String.toList_empty, List.map_eq_nil_iff]
  · intro c member
    rw [String.toList_ofList] at member
    obtain ⟨raw, inside, rfl⟩ := List.mem_map.mp member
    exact isRunChar_toLower (letters raw inside)

theorem isTypeName_typeOf (s : String) : IsTypeName (typeOf s) := by
  rw [typeOf_eq]
  split
  · refine ⟨["unknown"], List.cons_ne_nil _ _, ?_, rfl⟩
    intro word member
    rw [List.mem_singleton.mp member]
    exact ⟨by decide, by simp [isRunChar]⟩
  · next filled => exact ⟨wordsOf s, filled, fun word => isWord_of_mem_wordsOf, rfl⟩

theorem runs_of_letters {run : List Char} (filled : run ≠ [])
    (letters : ∀ c ∈ run, c.isAlphanum = true) : runs run = [run] := by
  have whole : run.splitOnP (fun c => !c.isAlphanum) = [run] :=
    List.splitOnP_eq_singleton fun c member => by simp [letters c member]
  simp [runs, whole, filled]

/-- Letters and digits in front of a divider are a run. -/
theorem runs_append_divider {run : List Char} {divider : Char} (filled : run ≠ [])
    (letters : ∀ c ∈ run, c.isAlphanum = true) (divides : divider.isAlphanum = false)
    (cs : List Char) : runs (run ++ divider :: cs) = run :: runs cs := by
  have split : (run ++ divider :: cs).splitOnP (fun c => !c.isAlphanum) =
      run.splitOnP (fun c => !c.isAlphanum) ++ cs.splitOnP (fun c => !c.isAlphanum) :=
    List.splitOnP_append_cons run cs (by simp [divides])
  rw [runs, split, List.filter_append, ← runs, ← runs, runs_of_letters filled letters]
  rfl

theorem runs_glue {pieces : List (List Char)}
    (each : ∀ piece ∈ pieces, piece ≠ [] ∧ ∀ c ∈ piece, c.isAlphanum = true) :
    runs (glue ['_'] pieces) = pieces := by
  induction pieces with
  | nil => rfl
  | cons piece rest ih =>
    obtain ⟨⟨filled, letters⟩, each⟩ := List.forall_mem_cons.mp each
    cases rest with
    | nil => exact runs_of_letters filled letters
    | cons next others =>
      rw [Text.glue_cons _ _ (List.cons_ne_nil next others), List.append_assoc]
      exact (runs_append_divider filled letters rfl _).trans (congrArg _ (ih each))

theorem IsWord.letters {word : String} (kind : IsWord word) :
    word.toList ≠ [] ∧ ∀ c ∈ word.toList, c.isAlphanum = true :=
  ⟨mt String.toList_eq_nil_iff.mp kind.nonempty,
    fun c member => isAlphanum_of_isRunChar (kind.chars c member)⟩

theorem IsWord.lower_eq {word : String} (kind : IsWord word) :
    String.ofList (word.toList.map Char.toLower) = word := by
  have same : word.toList.map Char.toLower = word.toList.map id :=
    List.map_congr_left fun c member => toLower_of_isRunChar (kind.chars c member)
  rw [same, List.map_id, String.ofList_toList]

/-- Words that are joined by underscores are the words of the text that they make up. -/
theorem wordsOf_joined (each : ∀ word ∈ words, IsWord word) : wordsOf (joined "_" words) = words := by
  have pieces : ∀ piece ∈ words.map String.toList, piece ≠ [] ∧ ∀ c ∈ piece, c.isAlphanum = true := by
    intro piece member
    obtain ⟨word, inside, rfl⟩ := List.mem_map.mp member
    exact (each word inside).letters
  have whole := runs_glue pieces
  rw [wordsOf, Text.toList_joined]
  change (runs (glue ['_'] _)).map _ = _
  rw [whole, List.map_map]
  have same : words.map ((fun run => String.ofList (run.map Char.toLower)) ∘ String.toList) =
      words.map id := List.map_congr_left fun word member => (each word member).lower_eq
  rw [same, List.map_id]

/-- The names of types are the texts that are shown as they are. -/
theorem typeOf_eq_self_iff : typeOf s = s ↔ IsTypeName s := by
  constructor
  · exact fun same => same ▸ isTypeName_typeOf s
  · rintro ⟨words, filled, each, rfl⟩
    rw [typeOf_eq, wordsOf_joined each, if_neg filled]

end Words

open FileName (IsStem stemOf)

/-- A type is shown by its runs of letters and digits, in small letters and with single underscores
between them, or as unknown without any; a stem of a file is a name of safe characters that is not
empty and has no point at its ends. Made again, such types, stems and names in diagrams stand as they
are, and each of the three leaves alone just the texts of its form. -/
theorem made_names_stand (s : String) :
    (wordsOf s = [] ∧ typeOf s = "unknown" ∨
      wordsOf s ≠ [] ∧ (∀ word ∈ wordsOf s, IsWord word) ∧ typeOf s = joined "_" (wordsOf s)) ∧
    IsStem (stemOf s) ∧
    (typeOf (typeOf s) = typeOf s ∧ stemOf (stemOf s) = stemOf s ∧ nameOf (nameOf s) = nameOf s) ∧
    (typeOf s = s ↔ IsTypeName s) ∧ (stemOf s = s ↔ IsStem s) ∧ (nameOf s = s ↔ IsToken s) := by
  refine ⟨?_, FileName.isStem_stemOf s, ⟨?_, ?_, ?_⟩, typeOf_eq_self_iff,
    FileName.stemOf_eq_self_iff, nameOf_eq_self_iff⟩
  · rw [typeOf_eq]
    by_cases none : wordsOf s = []
    · exact .inl ⟨none, if_pos none⟩
    · exact .inr ⟨none, fun word => isWord_of_mem_wordsOf, if_neg none⟩
  · exact typeOf_eq_self_iff.mpr (isTypeName_typeOf s)
  · exact FileName.stemOf_eq_self_iff.mpr (FileName.isStem_stemOf s)
  · exact nameOf_eq_self_iff.mpr (isToken_nameOf s)

end SchemaAtlas.Diagram
