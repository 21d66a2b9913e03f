import SchemaAtlas.Yaml.Character
import SchemaAtlas.Yaml.Fault
import SchemaAtlas.Yaml.Token
import SchemaAtlas.Json.Text

/-! # Names in front of nodes

A node may carry an anchor, by which it is named later, and a tag, which says what kind of value it
has. A tag is written in full between angle brackets, or as a handle with a suffix. Octets of a tag
may be written with a percent sign.
-/

namespace SchemaAtlas.Yaml.Property

/-- The characters that may follow an anchor. -/
def endsAnchor (cs : List Char) : Bool :=
  atBlank cs || cs.head?.any fun c => "?:,]\x7d%@".toList.contains c || c.toNat == 0x60

/-- The name of an anchor from behind its mark, and what follows. -/
def takeAnchor (cs : List Char) : Except Fault (String × List Char) :=
  let name := cs.takeWhile isNameCharacter
  let rest := cs.dropWhile isNameCharacter
  if name.isEmpty || !endsAnchor rest then .error (.malformed .property)
  else .ok (String.ofList name, rest)

/-- The characters of a tag that stand for themselves. -/
def isTagCharacter (c : Char) : Bool :=
  c.isAlphanum || "-;/?:@&=+$,_.!~*()[]".toList.contains c || c.toNat == 39

/-- The octets that are written with percent signs in front of a text. -/
def takeOctets (cs : List Char) : Except Fault (List UInt8 × List Char) :=
  match cs with
  | '%' :: a :: b :: rest =>
      match Json.hexDigit? a, Json.hexDigit? b with
      | some high, some low => do
          let (more, rest) ← takeOctets rest
          return (UInt8.ofNat (16 * high + low) :: more, rest)
      | _, _ => .error (.malformed .property)
  | '%' :: _ => .error (.malformed .property)
  | _ => .ok ([], cs)

/-- The text that octets encode. -/
def decoded? (octets : List UInt8) : Option (List Char) :=
  (String.fromUTF8? ⟨octets.toArray⟩).map String.toList

/-- The characters of a tag in front of a text, perhaps none. -/
def takeTagText (cs : List Char) : Except Fault (List Char × List Char) :=
  match cs with
  | [] => .ok ([], [])
  | c :: rest =>
      if isTagCharacter c then do
        let (more, after) ← takeTagText rest
        return (c :: more, after)
      else if c = '%' then do
        let (octets, behind) ← takeOctets (c :: rest)
        match decoded? octets with
        | none => throw (.malformed .property)
        | some text =>
            if _ : behind.length < (c :: rest).length then
              let (more, after) ← takeTagText behind
              return (text ++ more, after)
            else throw (.malformed .property)
      else .ok ([], c :: rest)
termination_by cs.length
decreasing_by all_goals simp only [List.length_cons] at *; omega

/-- The characters of a tag in front of a text, at least one. -/
def takeUri (cs : List Char) : Except Fault (String × List Char) := do
  let (text, rest) ← takeTagText cs
  if rest.length < cs.length then return (String.ofList text, rest)
  else throw (.malformed .property)

/-- A handle in front of a text: one exclamation mark, or two around a name that may be empty. -/
def takeHandle (cs : List Char) : Except Fault (String × List Char) :=
  match cs with
  | '!' :: rest =>
      if rest.head? = some ' ' then .ok ("!", rest)
      else
        match rest.dropWhile isNameCharacter with
        | '!' :: after =>
            .ok (String.ofList ('!' :: rest.takeWhile isNameCharacter ++ ['!']), after)
        | _ => .error (.malformed .property)
  | _ => .error (.malformed .property)

/-- Whether another exclamation mark stands before the next space. -/
def hasHandle (cs : List Char) : Bool :=
  (cs.takeWhile fun c => c != ' ' && !isBreak c).contains '!'

/-- A tag from its exclamation mark on, and what follows. -/
def takeTag (cs : List Char) : Except Fault (TagName × List Char) := do
  let (name, rest) ← match cs with
    | '!' :: '<' :: inner => do
        let (uri, rest) ← takeUri inner
        match rest with
        | '>' :: rest => pure (⟨none, uri⟩, rest)
        | _ => throw (.malformed .property)
    | _ =>
        if atBlank cs.tail then pure ((⟨none, "!"⟩ : TagName), cs.tail)
        else do
          let (handle, rest) ← if hasHandle cs.tail then takeHandle cs else pure ("!", cs.tail)
          let (suffix, rest) ← takeUri rest
          pure (⟨some handle, suffix⟩, rest)
  if atSpace rest then return (name, rest) else throw (.malformed .property)

end SchemaAtlas.Yaml.Property
