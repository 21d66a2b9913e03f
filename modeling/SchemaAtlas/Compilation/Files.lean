import SchemaAtlas.Compilation.Basic
import SchemaAtlas.Json.Writer

/-! # Artifact files

The files of a compilation with their paths below the output directory, in the order in which they
are written. A compilation that read nothing leaves only its report. A content that cannot be
written, a name that a file system cannot hold, or an output directory that cannot exist, stops the
writing.
-/

namespace SchemaAtlas.Compilation

open Document

/-- Why files are not written. -/
inductive WriteFault where
  | badKey
  | tooLong
  | cannotWrite
  deriving DecidableEq, Repr

/-- A file: its path and what it holds. -/
structure File where
  path : String
  content : String
  deriving DecidableEq, Repr

/-- The greatest length of a file name in octets. -/
def longestName : Nat := 255

/-- Whether every name in a path can be held by a file system. -/
def canHold (path : String) : Bool :=
  (Text.pieces '/' path).all fun name => name.utf8ByteSize ≤ longestName

/-- What a content cannot hold stops the writing. -/
def WriteFault.ofUnwritable : Json.Unwritable → WriteFault
  | .key _ => .badKey
  | .tooLong => .tooLong

/-- A value as the content of a file. -/
def valueContent (entries : Entries) : Except WriteFault String :=
  (Json.writeIndented (.dict entries)).mapError .ofUnwritable

/-- The files of compiled artifacts, each with a content that may not exist. -/
def Compiled.files (compiled : Compiled) : List (String × Except WriteFault String) :=
  let made := compiled.artifacts
  [("mapping_matrix.csv", .ok made.mappingCsv),
    ("lineage.json", valueContent compiled.lineage.record)] ++
  made.diagrams.map (fun (name, text) => ("erd/" ++ name, .ok text)) ++
  made.scripts.map (fun (dialect, text) => ("ddl/" ++ dialect.name ++ dialect.extension, .ok text)) ++
  made.documentation.elim [] (fun entries => [("documentation.json", valueContent entries)]) ++
  made.site.map fun (path, text) => ("docs/" ++ path, .ok text)

/-- The files of a compilation, the report last. -/
def Result.files (settings : Settings) (result : Result) : List (String × Except WriteFault String) :=
  result.compiled.elim [] Compiled.files ++
    [("report.json", valueContent (result.record settings))]

/-- A file, when its content exists and its path can be held. -/
def writeFile (path : String) (content : Except WriteFault String) : Except WriteFault File := do
  let content ← content
  if canHold path then return ⟨path, content⟩ else throw .cannotWrite

/-- The files written below a directory that can or cannot be made, or why writing stopped. -/
def Result.write (settings : Settings) (writable : Bool) (result : Result) :
    Except WriteFault (List File) :=
  if writable then (result.files settings).mapM fun (path, content) => writeFile path content
  else .error .cannotWrite

end SchemaAtlas.Compilation
