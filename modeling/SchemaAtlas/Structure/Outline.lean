import SchemaAtlas.Structure.Rule

/-! # Outlines of findings

Findings are told place by place. An outline keeps, for every field or item below a place, what is
wrong with it and the outline of what lies below it, the places in the order in which something was
first found there. An outline has no room for what is wrong with the document as a whole.
-/

namespace SchemaAtlas.Structure

/-- What is found below a place: its first part, with what is wrong with that part itself and the
outline of what lies below it, and then the other parts. -/
inductive Outline where
  | empty
  | part (step : Step) (own : List String) (inner others : Outline)

namespace Outline

/-- The outline of one wording at the end of a path. -/
def single (wording : String) : List Step → Outline
  | [] => empty
  | [step] => part step [wording] empty empty
  | step :: rest => part step [] (single wording rest) empty

/-- Add a wording at the end of a path: behind what is already wrong there, in front of what lies
below. -/
def add (wording : String) : List Step → Outline → Outline
  | path, empty => single wording path
  | [], outline => outline
  | [step], part other own inner others =>
      if other = step then part other (own ++ [wording]) inner others
      else part other own inner (add wording [step] others)
  | step :: rest, part other own inner others =>
      if other = step then part other own (add wording rest inner) others
      else part other own inner (add wording (step :: rest) others)

/-- The outline of findings. -/
def ofFindings (findings : List Finding) : Outline :=
  findings.foldl (fun outline finding => outline.add finding.breach.message finding.path) empty

/-- The lines of an outline below a place: a part comes in front of what lies below it. -/
def lines (place : String) : Outline → List String
  | empty => []
  | part step own inner others =>
      own.map (step.below place ++ ": " ++ ·) ++ inner.lines (step.below place) ++
        others.lines place

end Outline

end SchemaAtlas.Structure
