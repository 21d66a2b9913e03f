import SchemaAtlas.Loading.Document

/-! # Documents from files

All documents of a directory are read, each in the format that its name tells, in the order of their
paths part by part. Files with other endings are left alone. The first file that cannot be read, or
that holds something else than a dictionary, stops the reading.
-/

namespace SchemaAtlas.Loading

open Document

/-- A file below a directory: the parts of its path and its octets. -/
structure File where
  parts : List String
  octets : List UInt8

/-- The path of a file below its directory. -/
def File.path (file : File) : String := Text.joined "/" file.parts

/-- The endings of documents. -/
def endings : List String := [".yml", ".yaml", ".json", ".dbdoc"]

/-- Whether a file is taken for a document. -/
def File.isDocument (file : File) : Bool := endings.contains (FilePath.endingOf file.path)

/-- Whether a file lies at a path or below it. -/
def File.isAt (file : File) (parts : List String) : Bool := file.parts.take parts.length == parts

/-- Every line end as a line feed. -/
def unifyLineEnds : List Char → List Char
  | '\r' :: '\n' :: rest => '\n' :: unifyLineEnds rest
  | '\r' :: rest => '\n' :: unifyLineEnds rest
  | c :: rest => c :: unifyLineEnds rest
  | [] => []

/-- The text of a file, if its octets encode one. -/
def File.text? (file : File) : Option String :=
  (String.fromUTF8? ⟨file.octets.toArray⟩).map fun s => String.ofList (unifyLineEnds s.toList)

/-- Why a file is not read. -/
inductive FileFault where
  | encoding
  | breach (breach : Breach)
  | notDictionary (kind : String)
  | text (fault : TextFault)

/-- The wording for a file at a path; faults without one are told by their own. -/
def FileFault.message? (path : String) : FileFault → Option String
  | .breach rule => some ("Syntax error in " ++ path ++ ": " ++ rule.inFile)
  | .notDictionary kind => some ("Expected object at root of " ++ path ++ ", got " ++ kind)
  | _ => none

/-- The dictionary in a file, or no more than an outline of it. -/
structure Held where
  outline : Entries
  exact : Bool

/-- The dictionary in a file. -/
def File.read (file : File) : Except FileFault Held :=
  match file.text? with
  | none => .error .encoding
  | some text =>
      match (Format.ofPath file.path).read text with
      | .error (.breach breach) => .error (.breach breach)
      | .error fault => .error (.text fault)
      | .ok ⟨.dict document, exact⟩ => .ok ⟨document, exact⟩
      | .ok ⟨value, _⟩ => .error (.notDictionary (kindName value))

/-- Whether a path comes before another or is the same: the first part that differs decides. -/
def precedes : List String → List String → Bool
  | [], _ => true
  | _ :: _, [] => false
  | a :: as, b :: bs => if a = b then precedes as bs else decide (a ≤ b)

/-- The documents at a path or below it, in the order of their paths. -/
def documentsAt (files : List File) (path : String) : List File :=
  (files.filter fun file => file.isDocument && file.isAt (FilePath.parts path)).mergeSort
    fun a b => precedes a.parts b.parts

/-- Read documents one after the other; the first that fails is told with its fault. -/
def readAll : List File → Except (File × FileFault) (List (File × Held))
  | [] => .ok []
  | file :: files => do
      let held ← file.read.mapError (file, ·)
      return (file, held) :: (← readAll files)

/-- Read all documents at a path or below it. -/
def readDirectory (files : List File) (path : String) :
    Except (File × FileFault) (List (File × Held)) :=
  readAll (documentsAt files path)

end SchemaAtlas.Loading
