/-! # Reports

A report lists errors and warnings in the order in which they were found. It is valid when it has
no errors.
-/

namespace SchemaAtlas

/-- Findings as text. -/
structure Report where
  errors : List String := []
  warnings : List String := []
  deriving DecidableEq, Repr

/-- Warnings alone leave a report valid. -/
def Report.valid (report : Report) : Bool := report.errors.isEmpty

/-- The findings of one report followed by those of another. -/
def Report.merge (first second : Report) : Report where
  errors := first.errors ++ second.errors
  warnings := first.warnings ++ second.warnings

end SchemaAtlas
