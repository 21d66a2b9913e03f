import SchemaAtlas.Transform.Argument
import SchemaAtlas.Text.Word
import SchemaAtlas.Document.Literal
import SchemaAtlas.Document.Writable

/-! # Transform calls and their contracts

A transform is written as a call, a name followed by arguments in parentheses. Calls are checked
against a catalogue of names and numbers of arguments; they are never carried out.
-/

namespace SchemaAtlas.Transform

open Document (Value)

/-- A transform of the catalogue; without an upper bound it takes any number of arguments. -/
structure Contract where
  name : String
  description : String
  least : Nat
  most : Option Nat

/-- Whether a contract allows a number of arguments. -/
def Contract.accepts (contract : Contract) (count : Nat) : Bool :=
  contract.least ≤ count && contract.most.all (count ≤ ·)

/-- The known transforms. -/
def catalogue : List Contract :=
  [⟨"lower", "Convert string to lowercase", 0, some 0⟩,
    ⟨"upper", "Convert string to uppercase", 0, some 0⟩,
    ⟨"trim", "Remove leading and trailing whitespace", 0, some 0⟩,
    ⟨"concat", "Concatenate multiple strings", 2, none⟩,
    ⟨"substring", "Extract substring from start to end index", 2, some 3⟩,
    ⟨"parseDate", "Parse date string to ISO format", 0, some 1⟩,
    ⟨"formatDate", "Format date to specified format", 1, some 1⟩,
    ⟨"coalesce", "Return first non-empty value", 1, none⟩,
    ⟨"default", "Return default value if input is empty", 1, some 1⟩,
    ⟨"cast", "Cast value to specified type", 1, some 1⟩,
    ⟨"round", "Round number to specified decimal places", 0, some 1⟩,
    ⟨"abs", "Return absolute value of number", 0, some 0⟩]

/-- A call: the name, the arguments, and the whole text in trimmed form. -/
structure Call where
  name : String
  arguments : List String
  raw : String
  deriving DecidableEq, Repr

/-- The text in front of a closing parenthesis that ends the whole. -/
def withoutClosing? (cs : List Char) : Option (List Char) :=
  match cs.reverse with
  | ')' :: rest => some rest.reverse
  | _ => none

/-- The name and the text between the first parenthesis and the last character of a call. -/
def callParts? (cs : List Char) : Option (List Char × List Char) :=
  match cs.takeWhile Text.isWord, cs.dropWhile Text.isWord with
  | c :: name, '(' :: rest => (withoutClosing? rest).map (c :: name, ·)
  | _, _ => none

/-- The call that a string spells. -/
def Call.parse? (s : String) : Option Call :=
  let text := Text.trim s.toList
  (callParts? text).map fun (name, body) =>
    ⟨String.ofList name, (splitArguments body).map String.ofList, String.ofList text⟩

/-- The call that a value spells; only a text spells one. -/
def Call.ofValue? : Value → Option Call
  | .text s => Call.parse? s
  | _ => none

/-- Why a transform is refused. -/
inductive Problem where
  | notCall (shown : String)
  | unknown (name : String)
  | tooFew (name : String) (least count : Nat)
  | tooMany (name : String) (most count : Nat)
  deriving DecidableEq, Repr

/-- The wording of a problem. -/
def Problem.message : Problem → String
  | .notCall shown =>
      "Invalid transform syntax: \"" ++ shown ++ "\". Expected format: functionName(args)"
  | .unknown name =>
      "Unknown transform: \"" ++ name ++ "\". Available transforms: " ++
        Text.joined ", " (catalogue.map (·.name))
  | .tooFew name least count =>
      "Transform \"" ++ name ++ "\" requires at least " ++ toString least ++
        " argument(s), got " ++ toString count
  | .tooMany name most count =>
      "Transform \"" ++ name ++ "\" accepts at most " ++ toString most ++
        " argument(s), got " ++ toString count

/-- The contract of a given name. -/
def contract? (name : String) : Option Contract := catalogue.find? (·.name == name)

/-- What is wrong with a call. -/
def Call.problem? (call : Call) : Option Problem :=
  match contract? call.name with
  | none => some (.unknown call.name)
  | some contract =>
      let count := call.arguments.length
      if count < contract.least then some (.tooFew call.name contract.least count)
      else
        match contract.most with
        | some most => if most < count then some (.tooMany call.name most count) else none
        | none => none

/-- What is wrong with a value that should spell a call. -/
def problem? (raw : Value) : Option Problem :=
  match Call.ofValue? raw with
  | none => some (.notCall raw.display)
  | some call => call.problem?

/-- What is wrong with a value that should spell a call, told by showing what spells none. -/
def verdict? (raw : Value) : Except Document.TooLong (Option Problem) :=
  Document.showing (if (Call.ofValue? raw).isSome then [] else [raw]) (problem? raw)

end SchemaAtlas.Transform
