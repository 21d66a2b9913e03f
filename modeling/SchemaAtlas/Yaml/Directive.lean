import SchemaAtlas.Yaml.Property

/-! # Directives

A directive names the version of YAML or declares a handle for tags. Others are read over.
-/

namespace SchemaAtlas.Yaml.Directive

/-- A number of decimal digits in front of a text. -/
def takeNumber (cs : List Char) : Except Fault (Nat × List Char) :=
  let digits := cs.takeWhile Char.isDigit
  if digits.isEmpty then .error (.malformed .directive)
  else if Decimal.mostDigits < digits.length then .error (.tooManyDigits digits.length)
  else .ok (digits.foldl (fun n c => 10 * n + (c.toNat - '0'.toNat)) 0, cs.dropWhile Char.isDigit)

/-- The version in front of a text. -/
def takeVersion (cs : List Char) : Except Fault (Directive × List Char) := do
  let (major, rest) ← takeNumber (skipSpaces cs)
  match rest with
  | '.' :: rest => do
      let (_, rest) ← takeNumber rest
      if atSpace rest then return (.version major, rest) else throw (.malformed .directive)
  | _ => throw (.malformed .directive)

/-- The declaration of a handle in front of a text. -/
def takeHandle (cs : List Char) : Except Fault (Directive × List Char) := do
  let (handle, rest) ← Property.takeHandle (skipSpaces cs)
  if rest.head? = some ' ' then
    let (uri, rest) ← Property.takeUri (skipSpaces rest)
    if atSpace rest then return (.tag handle uri, rest)
  throw (.malformed .directive)

/-- A directive from behind its percent sign to the end of its line, and what follows. -/
def take (cs : List Char) : Except Fault (Directive × List Char) := do
  let name := cs.takeWhile isNameCharacter
  let rest := cs.dropWhile isNameCharacter
  if name.isEmpty || !atSpace rest then throw (.malformed .directive)
  let (directive, rest) ←
    if name = "YAML".toList then takeVersion rest
    else if name = "TAG".toList then takeHandle rest
    else pure (.other, rest.dropWhile fun c => !isBreak c)
  let after := skipComment (skipSpaces rest)
  if atLineEnd after then return (directive, ((takeBreak? after).map (·.2)).getD [])
  else throw (.malformed .directive)

end SchemaAtlas.Yaml.Directive
