import SchemaAtlas.Loading.Directory
import SchemaAtlas.Proofs.FilePath
import SchemaAtlas.Proofs.Loading.Outcome
import SchemaAtlas.Proofs.Sorting
import Mathlib.Data.List.Lex
import Mathlib.Data.String.Basic

/-! # Reading a directory

The documents of a directory are read all or not at all. They are walked through in the order of
their paths, and the first file without a document ends the reading. Where its text breaks the rules
of its format, or where its root is no dictionary, this is told under its path. A file whose octets
are no UTF-8, or with a scalar that has no value, ends the reading too, but nothing is told of it.
-/

namespace SchemaAtlas.Loading

open Document

section Walk

variable {file : File} {files : List File} {path : String}

/-- The name of a file, the last part of its path. -/
def File.name (file : File) : String := (FilePath.parts file.path).getLastD ""

/-- The extensions of documents. -/
def extensions : List String := ["yml", "yaml", "json", "dbdoc"]

/-- A file is a document by its name and lies at a path or below it. -/
structure File.Belongs (file : File) (path : String) : Prop where
  named : ∃ extension ∈ extensions, FilePath.HasExtension file.name extension
  below : FilePath.parts path <+: file.parts

theorem endingOf_path_iff {extension : String} (proper : extension ≠ "") :
    FilePath.endingOf file.path = "." ++ extension ↔ FilePath.HasExtension file.name extension :=
  FilePath.lowered_ending_iff proper

theorem isDocument_iff :
    file.isDocument = true ↔ ∃ extension ∈ extensions, FilePath.HasExtension file.name extension := by
  have dotted : endings = extensions.map ("." ++ ·) := rfl
  have proper : ∀ extension ∈ extensions, extension ≠ "" := by decide
  rw [File.isDocument, List.contains_iff_mem, dotted, List.mem_map]
  refine exists_congr fun extension => and_congr_right fun member => ?_
  rw [eq_comm, endingOf_path_iff (proper extension member)]

theorem isAt_iff {parts : List String} : file.isAt parts = true ↔ parts <+: file.parts := by
  rw [File.isAt, beq_iff_eq, List.prefix_iff_eq_take, eq_comm]

theorem belongs_iff :
    (file.isDocument && file.isAt (FilePath.parts path)) = true ↔ file.Belongs path := by
  rw [Bool.and_eq_true, isDocument_iff, isAt_iff]
  exact ⟨fun ⟨named, below⟩ => ⟨named, below⟩, fun ⟨named, below⟩ => ⟨named, below⟩⟩

theorem ofPath_eq_json_iff :
    Format.ofPath file.path = .json ↔ FilePath.HasExtension file.name "json" := by
  have ending : ".json" = "." ++ "json" := rfl
  rw [← endingOf_path_iff (by decide), Format.ofPath, ← ending]
  by_cases same : FilePath.endingOf file.path = ".json" <;> simp [same]

/-- The order of paths is the order of their parts, one after the other. -/
theorem precedes_iff {first second : List String} :
    precedes first second = true ↔ first ≤ second := by
  rw [← not_lt]
  induction first generalizing second with
  | nil => simp [precedes]
  | cons part rest ih =>
    cases second with
    | nil => simp [precedes]
    | cons other others =>
      rw [precedes, List.cons_lt_cons_iff]
      by_cases same : part = other
      · simp [same, ih]
      · rw [if_neg same]
        simp only [Ne.symm same, decide_eq_true_eq, false_and, or_false]
        exact not_lt.symm

/-- The documents of a directory at a path, in the order of their own paths. -/
structure Walk (files : List File) (path : String) (walk : List File) : Prop where
  belongs : ∀ file ∈ walk, file.Belongs path
  complete : ∃ others, files.Perm (walk ++ others) ∧ ∀ file ∈ others, ¬ file.Belongs path
  ordered : walk.Pairwise fun first second => first.parts ≤ second.parts

theorem walk_documentsAt (files : List File) (path : String) :
    Walk files path (documentsAt files path) where
  belongs file member := by
    have kept := List.mem_mergeSort.mp member
    exact belongs_iff.mp (List.mem_filter.mp kept).2
  complete := by
    refine ⟨files.filter fun file => !(file.isDocument && file.isAt (FilePath.parts path)), ?_, ?_⟩
    · have divided := List.filter_append_perm
        (fun file => file.isDocument && file.isAt (FilePath.parts path)) files
      exact divided.symm.trans ((List.mergeSort_perm _ _).symm.append_right _)
    · intro file member belongs
      have left := (List.mem_filter.mp member).2
      rw [belongs_iff.mpr belongs] at left
      cases left
  ordered := by
    have compares : Sorting.ComparesBy (fun first second : File => precedes first.parts second.parts)
        File.parts := fun _ _ => precedes_iff
    exact Sorting.pairwise_mergeSort compares _

example : (documentsAt [⟨["a.json"], []⟩, ⟨["a", "b.YML"], []⟩, ⟨["a", "c.txt"], []⟩] ".").map
    File.path = ["a/b.YML", "a.json"] := by cbv

end Walk

section Files

variable {file : File} {text shown message : String} {held : Held} {fault : FileFault}

/-- The octets of a file encode a text in UTF-8, but for the way in which its lines end. -/
def File.Spells (file : File) (text : String) : Prop :=
  ∃ written : String, written.toUTF8 = ⟨file.octets.toArray⟩ ∧
    text = String.ofList (unifyLineEnds written.toList)

/-- A file holds a document, which its text gives in the format of its name, or gives an outline of
where the text says more than a value can. -/
def File.Holds (file : File) (held : Held) : Prop :=
  ∃ text, file.Spells text ∧
    (Format.ofPath file.path).read text = .ok ⟨.dict held.outline, held.exact⟩

def File.HasDocument (file : File) : Prop := ∃ held, file.Holds held

/-- What is told of a file without a document, under the path that it is shown at. -/
inductive File.Refused (file : File) (shown : String) : String → Prop where
  /-- The text breaks a rule of its format. -/
  | breach {text : String} {breach : Breach} (spelt : file.Spells text)
      (read : (Format.ofPath file.path).read text = .error (.breach breach)) :
      Refused file shown ("Syntax error in " ++ shown ++ ": " ++ breach.inFile)
  /-- The root is no dictionary. -/
  | root {text : String} {value : Value} {exact : Bool} (spelt : file.Spells text)
      (read : (Format.ofPath file.path).read text = .ok ⟨value, exact⟩)
      (other : ∀ document, value ≠ .dict document) :
      Refused file shown ("Expected object at root of " ++ shown ++ ", got " ++ kindName value)

/-- A file has no document, and nothing is told of it. -/
inductive File.Defeated (file : File) : Prop where
  /-- The octets encode no text. -/
  | encoding (undecodable : ∀ text, ¬ file.Spells text)
  /-- A number or another scalar in the text has no value. -/
  | value {text : String} (spelt : file.Spells text)
      (valueless : (Format.ofPath file.path).Valueless text)

theorem fromUTF8?_eq_some_iff {octets : ByteArray} {written : String} :
    String.fromUTF8? octets = some written ↔ written.toUTF8 = octets := by
  rw [String.fromUTF8?]
  constructor
  · intro decoded
    split at decoded
    · cases decoded
      rfl
    · cases decoded
  · rintro rfl
    exact dif_pos written.isValidUTF8

theorem text?_eq_some_iff : file.text? = some text ↔ file.Spells text := by
  rw [File.text?, Option.map_eq_some_iff]
  exact exists_congr fun written =>
    and_congr fromUTF8?_eq_some_iff (eq_comm (a := String.ofList _))

theorem text?_eq_none_iff : file.text? = none ↔ ∀ text, ¬ file.Spells text := by
  rw [Option.eq_none_iff_forall_ne_some]
  exact forall_congr' fun text => not_congr text?_eq_some_iff

theorem File.Holds.read (holds : file.Holds held) : file.read = .ok held := by
  obtain ⟨text, spelt, read⟩ := holds
  rw [File.read, text?_eq_some_iff.mpr spelt]
  simp only [read]

theorem File.Refused.read (refused : file.Refused shown message) :
    ∃ fault, file.read = .error fault ∧ fault.message? shown = some message := by
  cases refused with
  | breach spelt read =>
    refine ⟨.breach _, ?_, rfl⟩
    rw [File.read, text?_eq_some_iff.mpr spelt]
    simp only [read]
  | root spelt read other =>
    refine ⟨.notDictionary _, ?_, rfl⟩
    rw [File.read, text?_eq_some_iff.mpr spelt]
    simp only [read]

theorem File.Defeated.read (defeated : file.Defeated) :
    ∃ fault, file.read = .error fault ∧ ∀ shown, fault.message? shown = none := by
  cases defeated with
  | encoding undecodable =>
    refine ⟨.encoding, ?_, fun _ => rfl⟩
    rw [File.read, text?_eq_none_iff.mpr undecodable]
  | value spelt valueless =>
    obtain ⟨reason, read⟩ := read_valueless_iff.mpr valueless
    refine ⟨.text (.value reason), ?_, fun _ => rfl⟩
    rw [File.read, text?_eq_some_iff.mpr spelt]
    simp only [read]

/-- A file holds a document, or something is told of it, or it is defeated. -/
theorem file_cases (file : File) :
    file.HasDocument ∨ (∀ shown, ∃ message, file.Refused shown message) ∨ file.Defeated := by
  cases decoded : file.text? with
  | none => exact .inr (.inr (.encoding (text?_eq_none_iff.mp decoded)))
  | some text =>
    have spelt := text?_eq_some_iff.mp decoded
    cases read : (Format.ofPath file.path).read text with
    | ok reading =>
      obtain ⟨value, exact⟩ := reading
      cases value with
      | dict document => exact .inl ⟨⟨document, exact⟩, text, spelt, read⟩
      | _ => exact .inr (.inl fun shown => ⟨_, .root spelt read (by simp)⟩)
    | error fault =>
      cases fault with
      | breach breach => exact .inr (.inl fun shown => ⟨_, .breach spelt read⟩)
      | value reason => exact .inr (.inr (.value spelt (read_valueless_iff.mp ⟨reason, read⟩)))

theorem read_eq_ok_iff : file.read = .ok held ↔ file.Holds held := by
  refine ⟨fun success => ?_, File.Holds.read⟩
  rcases file_cases file with ⟨other, holds⟩ | refused | defeated
  · rw [holds.read] at success
    cases success
    exact holds
  · obtain ⟨message, refused⟩ := refused ""
    obtain ⟨fault, read, _⟩ := refused.read
    rw [read] at success
    cases success
  · obtain ⟨fault, read, _⟩ := defeated.read
    rw [read] at success
    cases success

theorem read_told_iff :
    (∃ fault, file.read = .error fault ∧ fault.message? shown = some message) ↔
      file.Refused shown message := by
  refine ⟨fun told => ?_, File.Refused.read⟩
  obtain ⟨fault, failed, worded⟩ := told
  rcases file_cases file with ⟨document, holds⟩ | refused | defeated
  · rw [holds.read] at failed
    cases failed
  · obtain ⟨other, refused⟩ := refused shown
    obtain ⟨reason, read, same⟩ := refused.read
    rw [read] at failed
    cases failed
    rw [worded] at same
    cases same
    exact refused
  · obtain ⟨reason, read, silent⟩ := defeated.read
    rw [read] at failed
    cases failed
    rw [silent] at worded
    cases worded

theorem read_untold_iff :
    (∃ fault, file.read = .error fault ∧ ∀ shown, fault.message? shown = none) ↔
      file.Defeated := by
  refine ⟨fun untold => ?_, File.Defeated.read⟩
  obtain ⟨fault, failed, silent⟩ := untold
  rcases file_cases file with ⟨document, holds⟩ | refused | defeated
  · rw [holds.read] at failed
    cases failed
  · obtain ⟨message, refused⟩ := refused ""
    obtain ⟨reason, read, worded⟩ := refused.read
    rw [read] at failed
    cases failed
    rw [silent] at worded
    cases worded
  · exact defeated

end Files

section Directories

variable {file : File} {files : List File} {entries : List (File × Held)} {fault : FileFault}

/-- Reading one file beside its document, or beside its fault. -/
def File.attempt (file : File) : Except (File × FileFault) (File × Held) := do
  let held ← file.read.mapError (file, ·)
  return (file, held)

theorem attempt_eq_ok_iff {entry : File × Held} :
    file.attempt = .ok entry ↔ entry.1 = file ∧ file.Holds entry.2 := by
  rw [← read_eq_ok_iff, File.attempt]
  obtain ⟨other, document⟩ := entry
  cases file.read <;>
    simp [Except.mapError, bind, Except.bind, pure, Except.pure, eq_comm]

theorem attempt_eq_error_iff {failed : File} :
    file.attempt = .error (failed, fault) ↔ failed = file ∧ file.read = .error fault := by
  rw [File.attempt]
  cases file.read <;>
    simp [Except.mapError, bind, Except.bind, pure, Except.pure, eq_comm]

theorem readAll_eq_mapM (files : List File) : readAll files = files.mapM File.attempt := by
  induction files with
  | nil => rfl
  | cons file rest ih =>
    rw [readAll, List.mapM_cons, ih, File.attempt]
    cases file.read <;> rfl

/-- All files are read when every one of them holds a document. -/
theorem readAll_eq_ok_iff :
    readAll files = .ok entries ↔
      List.Forall₂ (fun file entry => entry.1 = file ∧ file.Holds entry.2) files entries := by
  rw [readAll_eq_mapM, Attempt.mapM_eq_ok_iff]
  simp only [attempt_eq_ok_iff]

/-- Otherwise the reading ends at the first file without a document. -/
theorem readAll_eq_error_iff :
    readAll files = .error (file, fault) ↔
      Attempt.Reached File.HasDocument files file ∧ file.read = .error fault := by
  have done : (fun other : File => ∃ entry, other.attempt = .ok entry) = File.HasDocument := by
    funext other
    simp [attempt_eq_ok_iff, File.HasDocument]
  rw [readAll_eq_mapM, Attempt.mapM_eq_error_iff, done]
  constructor
  · rintro ⟨other, reached, failed⟩
    obtain ⟨rfl, refused⟩ := attempt_eq_error_iff.mp failed
    exact ⟨reached, refused⟩
  · rintro ⟨reached, refused⟩
    exact ⟨file, reached, attempt_eq_error_iff.mpr ⟨rfl, refused⟩⟩

/-- A directory yields one document for every file that is one by its name, in the order of their
paths and read in the formats of their names, or it yields nothing and ends at the first of them that
holds none. Of that file it is told what is wrong, under the path it is shown at, unless the file is
defeated. -/
theorem documents_or_first_fault (files : List File) (path : String) :
    ∃ walk, Walk files path walk ∧
      (∀ file ∈ walk,
        Format.ofPath file.path = .json ↔ FilePath.HasExtension file.name "json") ∧
      (∀ entries, readDirectory files path = .ok entries ↔
        List.Forall₂ (fun file entry => entry.1 = file ∧ file.Holds entry.2) walk entries) ∧
      (∀ file shown message,
        (∃ fault, readDirectory files path = .error (file, fault) ∧
            fault.message? shown = some message) ↔
          Attempt.Reached File.HasDocument walk file ∧ file.Refused shown message) ∧
      ∀ file,
        (∃ fault, readDirectory files path = .error (file, fault) ∧
            ∀ shown, fault.message? shown = none) ↔
          Attempt.Reached File.HasDocument walk file ∧ file.Defeated := by
  refine ⟨documentsAt files path, walk_documentsAt files path, fun _ _ => ofPath_eq_json_iff,
    fun entries => readAll_eq_ok_iff, fun file shown message => ?_, fun file => ?_⟩
  · rw [← read_told_iff, readDirectory]
    simp only [readAll_eq_error_iff, and_assoc, exists_and_left]
  · rw [← read_untold_iff, readDirectory]
    simp only [readAll_eq_error_iff, and_assoc, exists_and_left]

/-- A file with an octet that begins no character ends the reading, and nothing is told of it. -/
theorem undecodable_file_untold :
    readDirectory [⟨["a.yaml"], [0xff]⟩] "." = .error (⟨["a.yaml"], [0xff]⟩, .encoding) ∧
      ∀ shown, FileFault.encoding.message? shown = none :=
  ⟨by cbv, fun _ => rfl⟩

end Directories

end SchemaAtlas.Loading
