import SchemaAtlas.Decimal.DigitLimit
import SchemaAtlas.Document.Value

/-! # Values that can be written

A whole number of too many digits cannot be written in decimal, and no more can a value that holds
one, be it as an item, a member or a key. Nothing can be made that shows such a value.
-/

namespace SchemaAtlas.Document

/-- Whether a scalar can be written. -/
def Scalar.isWritable : Scalar → Bool
  | .int n => Decimal.isWritable n
  | _ => true

namespace Value

mutual

/-- Whether a value can be written. -/
def isWritable : Value → Bool
  | .scalar s => s.isWritable
  | .list items => allWritable items
  | .tuple items => allWritable items
  | .set members => members.all Scalar.isWritable
  | .dict entries => entriesWritable entries

/-- Whether every value of a sequence can be written. -/
def allWritable : List Value → Bool
  | [] => true
  | item :: items => isWritable item && allWritable items

/-- Whether the keys and the values of entries can be written. -/
def entriesWritable : List (Scalar × Value) → Bool
  | [] => true
  | (key, value) :: rest => key.isWritable && isWritable value && entriesWritable rest

end

end Value

/-- Something shows a value that is too long to be written. -/
structure TooLong where
  deriving DecidableEq, Repr

/-- What is wrong with a value that is too long. -/
def TooLong.message (_ : TooLong) : String := Decimal.numberLimitText

/-- What is made by showing values, unless one of them is too long. -/
def showing {α : Type} (shown : List Value) (made : α) : Except TooLong α :=
  if shown.all Value.isWritable then .ok made else .error ⟨⟩

end SchemaAtlas.Document
