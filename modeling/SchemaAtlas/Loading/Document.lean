import SchemaAtlas.Loading.Format
import SchemaAtlas.Structure.Examination

/-! # Documents from text

A text is read and its structure examined. Whatever is wrong with a text or a structure is told in
the errors of the outcome; only a few faults of values keep a text from having an outcome at all.
What comes of a dictionary of which there is no more than an outline is left open.
-/

namespace SchemaAtlas.Loading

open Document

/-- What reading a document from a text comes to: whether it succeeded, the document, and what is
wrong or doubtful. -/
structure Outcome where
  success : Bool
  document : Option Entries
  errors : List String
  warnings : List String

/-- Why reading a text comes to nothing, or why nothing is said about it: there is no more than an
outline of its dictionary. -/
inductive Fault where
  | text (fault : TextFault)
  | refused (refusal : Structure.Refusal)
  | nameOfSection
  | beyond (outline : Entries)

/-- The outcome of a failure with a reason. -/
def Outcome.failed (reason : String) : Outcome := ⟨false, none, [reason], []⟩

/-- The name of the kind of a value. -/
def kindName : Value → String
  | .scalar .null => "NoneType"
  | .scalar (.bool _) => "bool"
  | .scalar (.int _) => "int"
  | .scalar (.real _) => "float"
  | .scalar (.text _) => "str"
  | .scalar (.date _) => "date"
  | .scalar (.moment _) => "datetime"
  | .scalar (.bytes _) => "bytes"
  | .list _ => "list"
  | .tuple _ => "tuple"
  | .set _ => "set"
  | .dict _ => "dict"

/-- Whether every section of a document is named by a text. -/
def hasTextNames (document : Entries) : Bool :=
  document.all fun entry => match entry.1 with
    | .text _ => true
    | _ => false

/-- The outcome of examining a document, which is handed over only when it is valid. -/
def ofEntries (document : Entries) : Except Fault Outcome := do
  let verdict ← (Structure.examine (.dict document)).mapError Fault.refused
  let handed := if verdict.valid then some document else none
  if handed.all hasTextNames then
    return ⟨verdict.valid, handed, verdict.errors, verdict.warnings⟩
  else throw .nameOfSection

/-- The outcome of what a text says. -/
def ofReading (reading : Reading) : Except Fault Outcome :=
  match reading.outline with
  | .null => .ok (.failed "Empty DSL document")
  | .dict document => if reading.exact then ofEntries document else .error (.beyond document)
  | value => .ok (.failed ("DSL content must be a dictionary/object, got " ++ kindName value))

/-- The outcome of reading a text in a format. -/
def ofFormat (format : Format) (text : String) : Except Fault Outcome :=
  match format.read text with
  | .error (.breach breach) => .ok (.failed breach.message)
  | .error fault => .error (.text fault)
  | .ok reading => ofReading reading

/-- The outcome of reading a text; without a named format the text tells its own. -/
def ofText (text : String) (name : Option String) : Except Fault Outcome := do
  if Text.isBlankText text then return .failed "Empty DSL content provided"
  match ← (Format.choose text name).mapError Fault.text with
  | .ok format => ofFormat format text
  | .error unknown => return .failed unknown.message

end SchemaAtlas.Loading
