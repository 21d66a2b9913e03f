import SchemaAtlas.Compilation.Records
import SchemaAtlas.Diagram.EntityRelation
import SchemaAtlas.Dialect.Script
import SchemaAtlas.Matrix.Mapping
import SchemaAtlas.Report.Referential
import SchemaAtlas.Schema.Shown
import SchemaAtlas.Settings.Basic
import SchemaAtlas.Site.Page

/-! # Compilation

A document is compiled in one go: schema graph, report, lineage, and every artifact. Artifacts are
made whether the report is valid or not; only a document that cannot be read, a value that is too
long to be shown, or a dialect that does not exist, stops a compilation.
-/

namespace SchemaAtlas.Compilation

open Schema Document

/-- What a request asks for; what it leaves open the settings decide. -/
structure Request where
  dialects : Option (List String) := none
  overview : Option Bool := none
  docs : Option Bool := none

/-- Everything that is made from a schema graph. -/
structure Artifacts where
  mappingCsv : String
  diagrams : List (String × String)
  scripts : List (Dialect × String)
  documentation : Option Entries
  site : List (String × String)

/-- A compiled document. -/
structure Compiled where
  graph : Graph
  lineage : Lineage.Graph
  artifacts : Artifacts

/-- The outcome of a compilation: nothing is compiled when the text could not be read. -/
structure Result where
  compiled : Option Compiled
  report : Report
  parseErrors : List String

/-- Why a compilation stops. -/
inductive Fault where
  | obstacle (obstacle : Obstacle)
  | clash (clash : Lineage.Clash)
  | dialect (request : Dialect.Unsupported)
  | tooLong

/-- A document that is not read stops its compilation. -/
def Fault.ofStop : Stop → Fault
  | .obstacle found => .obstacle found
  | .tooLong => .tooLong

/-- Scripts that are not written stop a compilation. -/
def Fault.ofScripts : Dialect.Fault → Fault
  | .unsupported request => .dialect request
  | .tooLong => .tooLong

/-- A value that is too long stops a compilation. -/
def limited {α : Type} (attempt : Except TooLong α) : Except Fault α :=
  attempt.mapError fun _ => .tooLong

/-- The summary of a schema graph, when documentation is asked for. -/
def documentation (docs : Bool) (graph : Graph) (stamp : Moment) :
    Except Fault (Option Entries) :=
  if docs then (limited (Site.documentation? graph stamp)).map some else .ok none

/-- The pages of a schema graph, when documentation is asked for. -/
def site (docs : Bool) (graph : Graph) (lineage : Lineage.Graph) (stamp : Moment) :
    Except Fault (List (String × String)) :=
  if docs then limited (Site.ofGraph? graph lineage stamp) else .ok []

/-- The artifacts of a schema graph, made one after the other. -/
def artifacts (settings : Settings) (request : Request) (stamp : Moment) (graph : Graph)
    (lineage : Lineage.Graph) : Except Fault Artifacts := do
  let docs := request.docs.getD settings.generateDocs
  let matrix ← limited (Matrix.ofGraph? graph)
  let diagrams ←
    limited (Diagram.ofGraph? graph (request.overview.getD settings.includeOverview))
  let scripts ← (Dialect.renderAll? graph
    (request.dialects.getD settings.defaultDialects)).mapError .ofScripts
  let summary ← documentation docs graph stamp
  let pages ← site docs graph lineage stamp
  return ⟨matrix, diagrams, scripts, summary, pages⟩

/-- Compile a document. -/
def ofDocument (settings : Settings) (request : Request) (stamp : Moment) (document : Value) :
    Except Fault Result := do
  let graph ← (Graph.read? settings.projectFallbackName document).mapError .ofStop
  let report ← limited (graph.report? settings.strictRedeclarations)
  let lineage ← (Lineage.Graph.of? graph).mapError .clash
  let artifacts ← artifacts settings request stamp graph lineage
  return {
    compiled := some ⟨graph, lineage, artifacts⟩
    report := report
    parseErrors := [] }

/-- A compilation succeeds when the text was read and the report is valid. -/
def Result.success (result : Result) : Bool := result.parseErrors.isEmpty && result.report.valid

/-- Strings as a value. -/
def textList (items : List String) : Value := .list (items.map .text)

/-- The report of a compilation as a value. -/
def Result.record (settings : Settings) (result : Result) : Entries :=
  Entries.named
    [("compiler", .dict (Entries.named
        [("name", .text settings.appName), ("version", .text settings.appVersion)])),
      ("project", .ofText? (result.compiled.map (·.graph.project))),
      ("valid", .bool result.success), ("errors", textList result.report.errors),
      ("warnings", textList result.report.warnings), ("parse_errors", textList result.parseErrors),
      ("summary", .dict (result.compiled.elim [] (·.lineage.summary.record))),
      ("processing_time", .real (.zero false))]

end SchemaAtlas.Compilation
