import SchemaAtlas.Document.Literal

/-! # Rules on the structure of documents

A rule says which kinds of values may stand somewhere, whether null and empty values may, and what
holds for the items of a list or the fields of a dictionary. A value that breaks its rule is
reported once; its items and fields are looked at only when it is of an admitted kind. Findings
about fields come in the order of their names, findings about items in the order of their positions.
-/

namespace SchemaAtlas.Structure

open Document

/-- The kinds of values that rules tell apart. -/
inductive Kind where
  | string
  | number
  | boolean
  | list
  | dict
  deriving DecidableEq, Repr

/-- The written name of a kind. -/
def Kind.name : Kind → String
  | .string => "string"
  | .number => "number"
  | .boolean => "boolean"
  | .list => "list"
  | .dict => "dict"

/-- Whether a value is of a kind; truth values are no numbers, octets are a list. -/
def Kind.holds : Kind → Value → Bool
  | .string, .text _ => true
  | .number, .int _ => true
  | .number, .real _ => true
  | .boolean, .bool _ => true
  | .list, .list _ => true
  | .list, .tuple _ => true
  | .list, .scalar (.bytes _) => true
  | .dict, .dict _ => true
  | _, _ => false

/-- What holds for a value and for what it contains. -/
inductive Rule where
  | mk (kinds : List Kind) (nullable nonempty : Bool) (items : Option Rule)
      (fields : List (String × Bool × Rule))

/-- A rule for values of some kinds that admits empty ones but not null. -/
def Rule.of (kinds : List Kind) : Rule := .mk kinds false false none []

/-- A rule for values of some kinds and null. -/
def Rule.nullable (kinds : List Kind) : Rule := .mk kinds true false none []

/-- A rule for texts that are not empty. -/
def Rule.name : Rule := .mk [.string] false true none []

/-- A rule for lists whose items obey a rule. -/
def Rule.listOf (items : Rule) : Rule := .mk [.list] false false (some items) []

/-- A rule for dictionaries with fields, each required or not, listed in the order of their names. -/
def Rule.record (fields : List (String × Bool × Rule)) : Rule := .mk [.dict] false false none fields

/-- Where a value stands in a document. -/
inductive Step where
  | field (name : String)
  | item (position : Nat)
  deriving DecidableEq, Repr

/-- The written place of a field or an item below a place: names divided by points, positions in
brackets. -/
def Step.below (place : String) : Step → String
  | .field name => if place = "" then name else place ++ "." ++ name
  | .item position => place ++ "[" ++ toString position ++ "]"

/-- How a value breaks its rule. -/
inductive Breach where
  | missing
  | null
  | kind (admitted : List Kind)
  | empty
  deriving DecidableEq, Repr

/-- The admitted kinds in a message: one by its name, several as a list. -/
def kindsText : List Kind → String
  | [kind] => kind.name
  | kinds => "[" ++ Text.joined ", " (kinds.map fun kind => "'" ++ kind.name ++ "'") ++ "]"

/-- The wording of a breach. -/
def Breach.message : Breach → String
  | .missing => "required field"
  | .null => "null value not allowed"
  | .kind admitted => "must be of " ++ kindsText admitted ++ " type"
  | .empty => "empty values not allowed"

/-- A breach with the place where it happened. -/
structure Finding where
  path : List Step
  breach : Breach
  deriving DecidableEq, Repr

/-- A finding as one line, below a place. -/
def Finding.line (place : String) (finding : Finding) : String :=
  finding.path.foldl Step.below place ++ ": " ++ finding.breach.message

/-- A finding seen from one step further out. -/
def Finding.under (step : Step) (finding : Finding) : Finding :=
  { finding with path := step :: finding.path }

/-- The items of a value of the list kind. -/
def listItems : Value → List Value
  | .list items => items
  | .tuple items => items
  | .scalar (.bytes octets) => octets.map fun octet => .int octet.toNat
  | _ => []

/-- What is found about the items of a list, by position. -/
def findInItems (check : Value → List Finding) (position : Nat) : List Value → List Finding
  | [] => []
  | item :: items =>
      (check item).map (.under (.item position)) ++ findInItems check (position + 1) items

mutual

/-- What is found about a value. -/
def Rule.check : Rule → Value → List Finding
  | .mk kinds nullable nonempty items fields, value =>
      match value with
      | .null => if nullable then [] else [⟨[], .null⟩]
      | value =>
          if !kinds.any (·.holds value) then [⟨[], .kind kinds⟩]
          else if nonempty && !value.isTruthy then [⟨[], .empty⟩]
          else checkItems items value ++ checkFields fields value

/-- What is found about the items of a value, when a rule says something about them. -/
def checkItems : Option Rule → Value → List Finding
  | none, _ => []
  | some rule, value => findInItems rule.check 0 (listItems value)

/-- What is found about the fields of a value. -/
def checkFields : List (String × Bool × Rule) → Value → List Finding
  | [], _ => []
  | (name, required, rule) :: fields, value =>
      (match Entries.get? value.entries name with
        | some field => (rule.check field).map (.under (.field name))
        | none => if required then [⟨[.field name], .missing⟩] else []) ++
      checkFields fields value

end

end SchemaAtlas.Structure
