/-! # Tables of character ranges

Character properties are given as sorted tables of closed code-point ranges. A table is searched
by halving, so a look-up costs the logarithm of the table's size.
-/

namespace SchemaAtlas.Text

/-- Search the half-open window of a sorted range table for the range that holds a code point. -/
def Range.search (table : Array (Nat × Nat)) (n : Nat) (low high : Nat) : Bool :=
  if low < high then
    let middle := (low + high) / 2
    match table[middle]? with
    | none => false
    | some (first, last) =>
        if n < first then Range.search table n low middle
        else if last < n then Range.search table n (middle + 1) high
        else true
  else false
termination_by high - low
decreasing_by all_goals omega

/-- Whether a code point lies in one of the ranges of a sorted table. -/
def Range.holds (table : Array (Nat × Nat)) (n : Nat) : Bool :=
  Range.search table n 0 table.size

end SchemaAtlas.Text
