import SchemaAtlas.Yaml.Fault

/-! # Dates and moments

A date is written as year, month and day; a moment adds a time of day behind a `T` or white space,
with an optional fraction of a second and an optional offset from universal time. A scalar without a
tag is a date only when month and day have two digits each.
-/

namespace SchemaAtlas.Yaml

open Document (Date Moment Value Scalar)

/-- The parts of a written date. -/
structure WrittenDate where
  year : List Char
  month : List Char
  day : List Char

/-- The parts of a written time of day. -/
structure WrittenTime where
  hour : List Char
  minute : List Char
  second : List Char
  fraction : List Char
  offset : Option Int

/-- A written date, with a time of day or without. -/
structure WrittenMoment where
  date : WrittenDate
  time : Option WrittenTime

namespace WrittenMoment

/-- The number that decimal digits write. -/
def number (digits : List Char) : Nat :=
  digits.foldl (fun n c => 10 * n + (c.toNat - '0'.toNat)) 0

/-- Digits in front of a text, as many as asked for. -/
def exactly? (count : Nat) (cs : List Char) : Option (List Char × List Char) :=
  let digits := cs.take count
  if digits.length = count && digits.all Char.isDigit then some (digits, cs.drop count) else none

/-- One or two digits in front of a text. -/
def oneOrTwo? (cs : List Char) : Option (List Char × List Char) :=
  (exactly? 2 cs).or (exactly? 1 cs)

/-- What follows a mark. -/
def behind? (mark : Char) : List Char → Option (List Char)
  | c :: rest => if c = mark then some rest else none
  | [] => none

/-- The minutes of an offset behind its sign, from its hours and perhaps minutes. -/
def offsetMinutes? (cs : List Char) : Option Int := do
  let (hours, rest) ← oneOrTwo? cs
  match rest with
  | [] => some (60 * number hours : Nat)
  | _ => do
      let (minutes, rest) ← exactly? 2 (← behind? ':' rest)
      if rest.isEmpty then some (60 * number hours + number minutes : Nat) else none

/-- The offset behind a time of day: none is written, or it is, perhaps behind white space. -/
def offset? (cs : List Char) : Option (Option Int) :=
  match cs, cs.dropWhile fun c => c == ' ' || c == '\t' with
  | [], _ => some none
  | _, ['Z'] => some (some 0)
  | _, '+' :: rest => (offsetMinutes? rest).map some
  | _, '-' :: rest => (offsetMinutes? rest).map fun minutes => some (-minutes)
  | _, _ => none

/-- A time of day. -/
def time? (cs : List Char) : Option WrittenTime := do
  let (hour, rest) ← oneOrTwo? cs
  let (minute, rest) ← exactly? 2 (← behind? ':' rest)
  let (second, rest) ← exactly? 2 (← behind? ':' rest)
  let (fraction, rest) := match rest with
    | '.' :: rest => (rest.takeWhile Char.isDigit, rest.dropWhile Char.isDigit)
    | _ => ([], rest)
  return ⟨hour, minute, second, fraction, ← offset? rest⟩

/-- What follows the mark between a date and a time of day. -/
def behindDate? : List Char → Option (List Char)
  | 'T' :: rest => some rest
  | 't' :: rest => some rest
  | c :: rest =>
      if c == ' ' || c == '\t' then some (rest.dropWhile fun c => c == ' ' || c == '\t') else none
  | [] => none

/-- A date or a moment. -/
def read? (cs : List Char) : Option WrittenMoment := do
  let (year, rest) ← exactly? 4 cs
  let (month, rest) ← oneOrTwo? (← behind? '-' rest)
  let (day, rest) ← oneOrTwo? (← behind? '-' rest)
  if rest.isEmpty then return ⟨⟨year, month, day⟩, none⟩
  else return ⟨⟨year, month, day⟩, some (← time? (← behindDate? rest))⟩

/-- Whether the form needs no tag. -/
def isEvident (m : WrittenMoment) : Bool :=
  m.time.isSome || (m.date.month.length == 2 && m.date.day.length == 2)

/-- A fraction of a second in microseconds, cut off behind the sixth digit. -/
def microseconds (fraction : List Char) : Nat :=
  let digits := fraction.take 6
  number digits * Nat.pow 10 (6 - digits.length)

/-- The date or the moment that is written. -/
def value (m : WrittenMoment) : Except Fault Scalar :=
  let date := Date.of? (number m.date.year) (number m.date.month) (number m.date.day)
  match m.time with
  | none => (date.mapError Fault.calendar).map Scalar.date
  | some t =>
      ((Moment.of? date (number t.hour) (number t.minute) (number t.second)
        (microseconds t.fraction) t.offset).mapError Fault.calendar).map Scalar.moment

end WrittenMoment

end SchemaAtlas.Yaml
