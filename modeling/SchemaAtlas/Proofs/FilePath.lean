import SchemaAtlas.FilePath
import SchemaAtlas.Proofs.FileName
import SchemaAtlas.Proofs.Text.Split
import Mathlib.Tactic.MkIffOfInductiveProp

/-! # Paths of ordinary names

A path is confined when it is relative and each of its parts is an ordinary name, so it leads to a
file below the directory it starts from and nowhere else. A relative reference is followed part by
part from the directory of the file that holds it; along a confined path this only goes down. The
extension of a name is what stands behind its last point.
-/

namespace SchemaAtlas.FilePath

open FileName

/-- A name that a file or a directory can have: safe characters, and none of the names that stand for
a directory itself or the one above. -/
@[mk_iff]
structure IsName (name : String) : Prop where
  nonempty : name ≠ ""
  here : name ≠ "."
  above : name ≠ ".."
  safe : AllSafe name

instance (name : String) : Decidable (IsName name) := decidable_of_iff _ (isName_iff name).symm

/-- A relative path of ordinary names. -/
structure Confined (path : String) : Prop where
  relative : root path.toList = ""
  names : ∀ part ∈ Text.pieces '/' path, IsName part

/-- A safe name is ordinary when it is longer than two points. -/
theorem isName_of_safe {name : String} (safe : AllSafe name) (long : 2 < name.length) :
    IsName name := by
  refine ⟨?_, ?_, ?_, safe⟩ <;>
  · rintro rfl
    exact absurd long (by decide)

/-- Names that are assigned are ordinary when stems and ending are safe and the ending is long. -/
theorem isName_of_mem_assign {α : Type} {stem : α → String} {ending : String} {used : List String}
    {items : List α} (safe : ∀ item, AllSafe (stem item)) (safe_ending : AllSafe ending)
    (long : 2 < ending.length) {name : String}
    (member : name ∈ (assign stem ending used items).map (·.1)) : IsName name := by
  obtain ⟨entry, listed, rfl⟩ := List.mem_map.mp member
  obtain ⟨others, same⟩ := exists_fresh_of_mem_assign stem ending listed
  rw [same]
  exact isName_of_safe (allSafe_fresh (safe entry.2) safe_ending others)
    (Nat.lt_of_lt_of_le long (length_ending_le_fresh _ _ _))

theorem slash_not_mem {name : String} (safe : AllSafe name) : '/' ∉ name.toList := by
  intro member
  cases safe '/' member

theorem root_append {name rest : String} (nonempty : name ≠ "") (plain : '/' ∉ name.toList) :
    root (name ++ rest).toList = "" := by
  rw [String.toList_append]
  cases chars : name.toList with
  | nil => exact absurd (String.toList_eq_nil_iff.mp chars) nonempty
  | cons c others =>
    have differs : c ≠ '/' := fun same => plain (chars ▸ same ▸ List.mem_cons_self)
    simp [root, differs]

theorem IsName.confined {name : String} (ordinary : IsName name) : Confined name where
  relative := by
    have followed : root (name ++ "").toList = "" :=
      root_append ordinary.nonempty (slash_not_mem ordinary.safe)
    rwa [String.append_empty] at followed
  names part member := by
    rw [Text.pieces_of_not_mem (slash_not_mem ordinary.safe)] at member
    rwa [List.mem_singleton.mp member]

theorem pieces_below {directory : String} (ordinary : IsName directory) (path : String) :
    Text.pieces '/' (directory ++ "/" ++ path) = directory :: Text.pieces '/' path :=
  Text.pieces_append (slash_not_mem ordinary.safe) path

/-- A confined path below an ordinary directory is confined. -/
theorem Confined.below {directory path : String} (ordinary : IsName directory)
    (confined : Confined path) : Confined (directory ++ "/" ++ path) where
  relative := by
    rw [String.append_assoc]
    exact root_append ordinary.nonempty (slash_not_mem ordinary.safe)
  names := by
    rw [pieces_below ordinary]
    exact List.forall_mem_cons.mpr ⟨ordinary, confined.names⟩

section Areas

/-- Paths that start with one name, all different: the name itself, or what stands below it. -/
structure Area where
  top : String
  paths : List String
  ordinary : IsName top
  below : ∀ path ∈ paths, path = top ∨ ∃ inner, Confined inner ∧ path = top ++ "/" ++ inner
  nodup : paths.Nodup

/-- A single file. -/
def Area.file (name : String) (ordinary : IsName name) : Area where
  top := name
  paths := [name]
  ordinary := ordinary
  below _ member := .inl (List.mem_singleton.mp member)
  nodup := List.nodup_singleton name

/-- A directory with some paths below it. -/
def Area.directory (name : String) (ordinary : IsName name) (inner : List String)
    (confined : ∀ path ∈ inner, Confined path) (nodup : inner.Nodup) : Area where
  top := name
  paths := inner.map (name ++ "/" ++ ·)
  ordinary := ordinary
  below _ member := by
    obtain ⟨path, listed, rfl⟩ := List.mem_map.mp member
    exact .inr ⟨path, confined path listed, rfl⟩
  nodup := nodup.map fun _ _ => (String.append_right_inj _).mp

theorem Area.confined {area : Area} {path : String} (member : path ∈ area.paths) :
    Confined path := by
  rcases area.below path member with rfl | ⟨inner, confined, rfl⟩
  · exact area.ordinary.confined
  · exact confined.below area.ordinary

theorem Area.head?_pieces {area : Area} {path : String} (member : path ∈ area.paths) :
    (Text.pieces '/' path).head? = some area.top := by
  rcases area.below path member with rfl | ⟨inner, _, rfl⟩
  · rw [Text.pieces_of_not_mem (slash_not_mem area.ordinary.safe), List.head?_singleton]
  · rw [pieces_below area.ordinary, List.head?_cons]

/-- Areas under different names have no path in common. -/
theorem Area.nodup_flatMap {areas : List Area} (tops : (areas.map Area.top).Nodup) :
    (areas.flatMap Area.paths).Nodup := by
  refine List.nodup_flatMap.mpr ⟨fun area _ => area.nodup, ?_⟩
  refine (List.pairwise_map.mp tops).imp fun {first second} differs path left right => ?_
  have same := (Area.head?_pieces left).symm.trans (Area.head?_pieces right)
  exact differs (Option.some.inj same)

end Areas

section Endings

/-- What follows the last point of a name, in lower case; a point that opens the name does not
count. -/
def HasExtension (name extension : String) : Prop :=
  ∃ stem written : String, name = stem ++ "." ++ written ∧ stem ≠ "" ∧ '.' ∉ written.toList ∧
    Text.lowered written = extension

theorem ending_append {behind : List Char} (last : '.' ∉ behind) (stem : List Char) :
    ending (stem ++ '.' :: behind) = if stem = [] ∨ behind = [] then [] else '.' :: behind := by
  have dotted : (stem ++ '.' :: behind).contains '.' = true := by simp
  have shorter : behind.length + 1 < (stem ++ '.' :: behind).length ↔ stem ≠ [] := by
    rw [List.length_append, List.length_cons, ← List.length_pos_iff]
    omega
  rw [ending]
  simp only [Text.takeWhile_reverse_append last, dotted, List.length_reverse,
    List.reverse_reverse, List.isEmpty_reverse, shorter]
  by_cases bare : stem = [] <;> by_cases final : behind = [] <;> simp [bare, final]

theorem ending_of_not_mem {name : List Char} (pointless : '.' ∉ name) : ending name = [] := by
  rw [ending]
  simp [pointless]

theorem lowered_extension (written : List Char) :
    String.ofList (Text.lower ('.' :: written)) =
      "." ++ Text.lowered (String.ofList written) := by
  have point : Text.lowerChar '.' = ['.'] := by decide
  apply String.toList_injective
  simp [Text.lower, Text.lowered, point]

/-- A name has an extension exactly when its ending is a point and that extension, in any case. -/
theorem lowered_ending_iff {name extension : String} (proper : extension ≠ "") :
    String.ofList (Text.lower (ending name.toList)) = "." ++ extension ↔
      HasExtension name extension := by
  have unended : String.ofList (Text.lower []) ≠ "." ++ extension := by
    intro same
    have chars := congrArg String.toList same
    simp [Text.lower] at chars
  constructor
  · intro same
    by_cases dotted : '.' ∈ name.toList
    · obtain ⟨stem, behind, split, last⟩ := Text.exists_last_separator dotted
      rw [split, ending_append last] at same
      by_cases edge : stem = [] ∨ behind = []
      · rw [if_pos edge] at same
        exact absurd same unended
      · rw [if_neg edge, lowered_extension, String.append_right_inj] at same
        refine ⟨String.ofList stem, String.ofList behind, ?_, ?_, ?_, same⟩
        · apply String.toList_injective
          simp [split]
        · exact fun empty => edge (.inl (String.ofList_eq_empty_iff.mp empty))
        · rwa [String.toList_ofList]
    · rw [ending_of_not_mem dotted] at same
      exact absurd same unended
  · rintro ⟨stem, written, rfl, nonempty, last, rfl⟩
    have filled : written.toList ≠ [] := by
      intro empty
      rw [Text.lowered, empty] at proper
      exact proper rfl
    have split : (stem ++ "." ++ written).toList = stem.toList ++ '.' :: written.toList := by simp
    rw [split, ending_append last, if_neg (by simp [nonempty, filled]), lowered_extension,
      String.ofList_toList]

end Endings

section References

/-- One part of a reference: two points lead one directory up and a single one nowhere. -/
def step (directory : List String) (part : String) : List String :=
  if part = ".." then directory.dropLast
  else if part = "." then directory
  else directory ++ [part]

/-- The path that a relative reference in a file leads to. -/
def resolve (file reference : String) : String :=
  Text.joined "/" ((Text.pieces '/' reference).foldl step (Text.pieces '/' file).dropLast)

/-- Ordinary names lead down, one after the other. -/
theorem foldl_step {parts : List String} (ordinary : ∀ part ∈ parts, IsName part)
    (directory : List String) : parts.foldl step directory = directory ++ parts := by
  induction parts generalizing directory with
  | nil => simp
  | cons part rest ih =>
    obtain ⟨here, behind⟩ := List.forall_mem_cons.mp ordinary
    rw [List.foldl_cons, step, if_neg here.above, if_neg here.here, ih behind]
    simp

variable {directory file path : String}

/-- From a file without a directory a confined reference is the path itself. -/
theorem resolve_of_name (ordinary : IsName file) (confined : Confined path) :
    resolve file path = path := by
  rw [resolve, Text.pieces_of_not_mem (slash_not_mem ordinary.safe), foldl_step confined.names]
  exact Text.joined_pieces '/' path

/-- From a file in a directory a confined reference leads to a path in the same directory. -/
theorem resolve_beside (below : IsName directory) (ordinary : IsName file)
    (confined : Confined path) :
    resolve (directory ++ "/" ++ file) path = directory ++ "/" ++ path := by
  rw [resolve, pieces_below below, Text.pieces_of_not_mem (slash_not_mem ordinary.safe),
    foldl_step confined.names]
  have joined := Text.joined_pieces '/' (directory ++ "/" ++ path)
  rwa [pieces_below below] at joined

/-- From a file in a directory a reference that starts upward leaves that directory. -/
theorem resolve_above (below : IsName directory) (ordinary : IsName file)
    (confined : Confined path) :
    resolve (directory ++ "/" ++ file) ("../" ++ path) = path := by
  have pieces : Text.pieces '/' ("../" ++ path) = ".." :: Text.pieces '/' path := by
    have absent : '/' ∉ "..".toList := by decide
    exact Text.pieces_append absent path
  rw [resolve, pieces_below below, Text.pieces_of_not_mem (slash_not_mem ordinary.safe), pieces,
    List.foldl_cons]
  have up : step [directory, file].dropLast ".." = [] := rfl
  rw [up, foldl_step confined.names]
  exact Text.joined_pieces '/' path

end References

end SchemaAtlas.FilePath
