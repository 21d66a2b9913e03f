import SchemaAtlas.Decimal.DigitLimit
import SchemaAtlas.Document.Literal

/-! # Faults of a YAML text

A text may break the rules of YAML, or it may keep them and hold a scalar that has no value of the
kind it is declared to be. The two are kept apart: the second kind of fault says what is wrong.
-/

namespace SchemaAtlas.Yaml

open Document (CalendarFault quotedText)

/-- A rule of YAML that a text breaks. -/
inductive Flaw where
  | character
  | token
  | keyWithoutValue
  | misplacedMark
  | directive
  | property
  | escape
  | unterminated
  | blockHeader
  | arrangement
  | tagHandle
  | repeatedAnchor
  | unknownAnchor
  | unknownTag
  | kind
  | merge
  | key
  | encoding
  deriving DecidableEq, Repr

/-- Why a text yields no value. -/
inductive Fault where
  | malformed (flaw : Flaw)
  | noCharacter (code : Nat)
  | emptyNumber
  | notWhole (base : Nat) (text : String)
  | tooManyDigits (count : Nat)
  | notReal (text : String)
  | tooGreat
  | notTruthValue
  | notMoment
  | momentOfMapping
  | calendar (fault : CalendarFault)
  deriving DecidableEq, Repr

/-- The codes beyond this bound are not even numbers of characters. -/
def greatestCode : Nat := 0x80000000

/-- The wording of a fault of a value; the other faults have none. -/
def Fault.message? : Fault → Option String
  | .noCharacter code =>
      if code < greatestCode then some "chr() arg not in range(0x110000)" else none
  | .notWhole base text =>
      some ("invalid literal for int() with base " ++ toString base ++ ": " ++
        String.ofList ((quotedText text).toList.take 200))
  | .tooManyDigits count => some (Decimal.digitLimitText count)
  | .notReal text => some ("could not convert string to float: " ++ quotedText text)
  | .calendar fault => some fault.message
  | _ => none

end SchemaAtlas.Yaml
