import SchemaAtlas.Compilation.Basic
import SchemaAtlas.Loading.Document

/-! # Compilation of text

A text is read and examined before it is compiled. What is doubtful about its structure comes in
front of what is doubtful about the schema; a text that yields no document is not compiled.
-/

namespace SchemaAtlas.Compilation

open Document

/-- Why a text has no compilation at all. -/
inductive TextFault where
  | unread (fault : Loading.Fault)
  | uncompiled (fault : Fault)

/-- A report of nothing but what is doubtful about the structure of a document. -/
def structureReport (outcome : Loading.Outcome) : Report := { errors := [], warnings := outcome.warnings }

/-- Compile what reading a text has come to. -/
def ofOutcome (settings : Settings) (request : Request) (stamp : Moment)
    (outcome : Loading.Outcome) : Except TextFault Result := do
  match outcome.success, outcome.document with
  | true, some document =>
      let result ← (ofDocument settings request stamp (.dict document)).mapError .uncompiled
      return { result with report := (structureReport outcome).merge result.report }
  | _, _ =>
      return { compiled := none, report := structureReport outcome, parseErrors := outcome.errors }

/-- Compile a text; without a named format the text tells its own. -/
def ofText (settings : Settings) (request : Request) (stamp : Moment) (text : String)
    (format : Option String) : Except TextFault Result := do
  let outcome ← (Loading.ofText text format).mapError .unread
  ofOutcome settings request stamp outcome

end SchemaAtlas.Compilation
