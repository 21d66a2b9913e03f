import SchemaAtlas.Document.Calendar

/-! # Document values

A document is a tree of lists and dictionaries over scalars. Dictionaries keep the order in which
their keys were first written. Keys are scalars, and two keys are the same when they are equal as
quantities: `1`, `1.0` and `true` are one key, `"1"` is another.
-/

namespace SchemaAtlas.Document

open Decimal (Real64)

/-- An indivisible value, usable as a dictionary key. -/
inductive Scalar where
  | null
  | bool (b : Bool)
  | int (n : Int)
  | real (x : Real64)
  | text (s : String)
  | date (d : Date)
  | moment (m : Moment)
  | bytes (octets : List UInt8)
  deriving DecidableEq

/-- What a scalar is compared by when it serves as a key. -/
inductive Key where
  | null
  | whole (n : Int)
  | real (x : Real64)
  | text (s : String)
  | date (d : Date)
  | local (m : Moment)
  | instant (microseconds : Int)
  | bytes (octets : List UInt8)
  deriving DecidableEq

/-- The key of a scalar: truth values and whole reals count as whole numbers. -/
def Scalar.key : Scalar → Key
  | .null => .null
  | .bool b => .whole (if b then 1 else 0)
  | .int n => .whole n
  | .real x => match x.toInt? with | some n => .whole n | none => .real x
  | .text s => .text s
  | .date d => .date d
  | .moment m => match m.offset with | some offset => .instant (m.instant offset) | none => .local m
  | .bytes octets => .bytes octets

/-- A value of a document. -/
inductive Value where
  | scalar (s : Scalar)
  | list (items : List Value)
  | tuple (items : List Value)
  | set (members : List Scalar)
  | dict (entries : List (Scalar × Value))

/-- The entries of a dictionary, in order. -/
abbrev Entries := List (Scalar × Value)

namespace Value

@[match_pattern] abbrev null : Value := .scalar .null
@[match_pattern] abbrev bool (b : Bool) : Value := .scalar (.bool b)
@[match_pattern] abbrev int (n : Int) : Value := .scalar (.int n)
@[match_pattern] abbrev real (x : Real64) : Value := .scalar (.real x)
@[match_pattern] abbrev text (s : String) : Value := .scalar (.text s)

instance : Inhabited Value := ⟨null⟩

mutual

/-- Whether two values are written alike. -/
def sameAs : Value → Value → Bool
  | .scalar a, .scalar b => a == b
  | .list as, .list bs => sameItems as bs
  | .tuple as, .tuple bs => sameItems as bs
  | .set as, .set bs => as == bs
  | .dict as, .dict bs => sameEntries as bs
  | _, _ => false

/-- Whether two sequences of values are written alike. -/
def sameItems : List Value → List Value → Bool
  | [], [] => true
  | a :: as, b :: bs => sameAs a b && sameItems as bs
  | _, _ => false

/-- Whether two sequences of entries are written alike. -/
def sameEntries : List (Scalar × Value) → List (Scalar × Value) → Bool
  | [], [] => true
  | (j, a) :: as, (k, b) :: bs => j == k && sameAs a b && sameEntries as bs
  | _, _ => false

end

instance : BEq Value := ⟨sameAs⟩

/-- Empty texts and collections, zeros, `false` and null count as absent. -/
def isTruthy : Value → Bool
  | null => false
  | bool b => b
  | int n => n != 0
  | real x => !x.isZero
  | text s => s != ""
  | .scalar (.bytes octets) => !octets.isEmpty
  | .scalar _ => true
  | .list items => !items.isEmpty
  | .tuple items => !items.isEmpty
  | .set members => !members.isEmpty
  | .dict entries => !entries.isEmpty

mutual

/-- Whether a value can be looked up among keys. -/
def isHashable : Value → Bool
  | .scalar _ => true
  | .tuple items => allHashable items
  | _ => false

/-- Whether every value of a sequence can be looked up among keys. -/
def allHashable : List Value → Bool
  | [] => true
  | item :: items => isHashable item && allHashable items

end

end Value

namespace Entries

/-- The value stored under a key. -/
def find? (entries : Entries) (key : Key) : Option Value :=
  (List.find? (fun entry => decide (entry.1.key = key)) entries).map (·.2)

/-- The value stored under a textual key. -/
def get? (entries : Entries) (name : String) : Option Value := entries.find? (.text name)

/-- The value stored under a textual key, null when there is none. -/
def get (entries : Entries) (name : String) : Value := (entries.get? name).getD .null

/-- Whether a textual key is present. -/
def has (entries : Entries) (name : String) : Bool := (entries.get? name).isSome

/-- Store a value: the first entry of an equal key takes it, otherwise it goes to the end. -/
def insert : Entries → Scalar → Value → Entries
  | [], key, value => [(key, value)]
  | (k, old) :: rest, key, value =>
      if k.key = key.key then (k, value) :: rest else (k, old) :: Entries.insert rest key value

/-- Store a value under a textual key. -/
def set (entries : Entries) (name : String) (value : Value) : Entries :=
  entries.insert (.text name) value

/-- Store the entries of one dictionary into another, one after the other. -/
def override (entries more : Entries) : Entries :=
  more.foldl (fun result entry => result.insert entry.1 entry.2) entries

/-- A dictionary built by storing entries one after the other. -/
def ofList (entries : List (Scalar × Value)) : Entries := override [] entries

/-- Named values as entries. -/
def named (pairs : List (String × Value)) : Entries :=
  pairs.map fun pair => (.text pair.1, pair.2)

@[simp] theorem get_nil (name : String) : get [] name = .null := rfl

@[simp] theorem get_text_cons (name wanted : String) (value : Value) (entries : Entries) :
    get ((.text name, value) :: entries) wanted =
      if name = wanted then value else get entries wanted := by
  by_cases same : name = wanted <;> simp [get, get?, find?, Scalar.key, same]

@[simp] theorem named_nil : named [] = [] := rfl

@[simp] theorem named_cons (name : String) (value : Value) (pairs : List (String × Value)) :
    named ((name, value) :: pairs) = (.text name, value) :: named pairs := rfl

end Entries

/-- The entries of a dictionary, none for any other value. -/
def Value.entries : Value → Entries
  | .dict entries => entries
  | _ => []

/-- An optional text as a value. -/
def Value.ofText? (text : Option String) : Value := text.elim .null .text

end SchemaAtlas.Document
