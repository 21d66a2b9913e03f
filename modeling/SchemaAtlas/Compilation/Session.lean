import SchemaAtlas.Compilation.Basic
import SchemaAtlas.Loading.Merge

/-! # Sessions

A session keeps a list of documents that changes step by step. After every change the documents are
merged and analysed anew, so each step shows the state of the whole list.
-/

namespace SchemaAtlas.Compilation

open Schema Document

/-- The documents of a session, and whether redeclared tables count as errors. -/
structure Session where
  documents : List Value := []
  strict : Bool := false

/-- A change to a session. -/
inductive Change where
  | add (document : Value)
  | drop (position : Int)
  | replace (position : Int) (document : Value)
  | swap (first second : Int)
  | strict (value : Bool)

/-- Why a step of a session shows nothing. -/
inductive StepFault where
  | position
  | notDocument
  | stop (stop : Stop)
  | clash (clash : Lineage.Clash)
  | tooLong

/-- A position in a list, counted from the end when it is negative. -/
def position? (length : Nat) (position : Int) : Option Nat :=
  let counted := if position < 0 then position + length else position
  if 0 ≤ counted && counted < length then some counted.toNat else none

namespace Session

/-- A session after a change, or nothing when a position is out of range. -/
def change? (session : Session) : Change → Option Session
  | .add document => some { session with documents := session.documents ++ [document] }
  | .drop position => do
      let index ← position? session.documents.length position
      return { session with documents := session.documents.eraseIdx index }
  | .replace position document => do
      let index ← position? session.documents.length position
      return { session with documents := session.documents.set index document }
  | .swap first second => do
      let i ← position? session.documents.length first
      let j ← position? session.documents.length second
      let a ← session.documents[i]?
      let b ← session.documents[j]?
      return { session with documents := (session.documents.set i b).set j a }
  | .strict value => some { session with strict := value }

/-- What a step shows. -/
structure View where
  graph : Graph
  report : Report
  lineage : Lineage.Graph
  diagramNames : List String

/-- The entries of a document. -/
def entries? : Value → Except StepFault Entries
  | .dict entries => .ok entries
  | _ => .error .notDocument

/-- The state of a session's documents. -/
def view (settings : Settings) (session : Session) : Except StepFault View := do
  let documents ← session.documents.mapM entries?
  let merged := Value.dict (Loading.merge documents)
  let graph ← (Graph.read? settings.projectFallbackName merged).mapError .stop
  let report ← (graph.report? session.strict).mapError fun _ => .tooLong
  let lineage ← (Lineage.Graph.of? graph).mapError .clash
  let diagrams ← (Diagram.ofGraph? graph session.strict).mapError fun _ => .tooLong
  return ⟨graph, report, lineage, diagrams.map (·.1)⟩

/-- Carry out a change and show the state; a change out of range leaves the session as it was. -/
def step (settings : Settings) (session : Session) (change : Change) :
    Session × Except StepFault View :=
  match session.change? change with
  | some changed => (changed, changed.view settings)
  | none => (session, .error .position)

/-- Carry out changes one after the other. -/
def run (settings : Settings) (session : Session) : List Change → List (Except StepFault View)
  | [] => []
  | change :: changes =>
      let (next, shown) := session.step settings change
      shown :: run settings next changes

end Session

end SchemaAtlas.Compilation
