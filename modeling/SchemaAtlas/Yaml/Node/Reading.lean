import SchemaAtlas.Yaml.Node
import SchemaAtlas.Yaml.Token

/-! # Nodes from tokens

Tokens are read into the node of the one document that a text may hold. Reading keeps the anchors
met so far; the tokens left over are fewer with every node read, which is why it ends.
-/

namespace SchemaAtlas.Yaml

/-- What the handles of tags stand for. -/
abbrev Handles := List (String × String)

/-- The handles that need no declaration. -/
def Handles.standard : Handles := [("!", "!"), ("!!", Tag.schema)]

/-- The full name of a tag. -/
def TagName.full (handles : Handles) (name : TagName) : Except Fault String :=
  match name.handle with
  | none => .ok name.suffix
  | some handle =>
      match handles.lookup handle with
      | some opening => .ok (opening ++ name.suffix)
      | none => .error (.malformed .tagHandle)

/-- The anchors met so far, with their nodes unless these are still being read. -/
abbrev Anchors := List (String × Option Node)

namespace Anchors

/-- The node of an alias. -/
def resolve (anchors : Anchors) (name : String) : Except Fault Node :=
  match anchors.lookup name with
  | none => .error (.malformed .unknownAnchor)
  | some none => .ok .enclosing
  | some (some node) => .ok node

/-- Announce an anchor; its name must be new. -/
def announce (anchors : Anchors) : Option String → Except Fault Anchors
  | none => .ok anchors
  | some name =>
      if (anchors.lookup name).isSome then .error (.malformed .repeatedAnchor)
      else .ok ((name, none) :: anchors)

/-- Give an announced anchor its node. -/
def define (anchors : Anchors) (name : Option String) (node : Node) : Anchors :=
  name.elim anchors fun name => (name, some node) :: anchors

end Anchors

/-- The names in front of a node, and the tokens behind them. -/
structure Properties where
  anchor : Option String
  tag : Option TagName
  rest : List Token

/-- The names in front of a node, in either order. -/
def Properties.ofTokens : List Token → Properties
  | .anchor anchor :: .tag tag :: rest => ⟨some anchor, some tag, rest⟩
  | .anchor anchor :: rest => ⟨some anchor, none, rest⟩
  | .tag tag :: .anchor anchor :: rest => ⟨some anchor, some tag, rest⟩
  | .tag tag :: rest => ⟨none, some tag, rest⟩
  | rest => ⟨none, none, rest⟩

theorem Properties.length_rest_le (ts : List Token) :
    (Properties.ofTokens ts).rest.length ≤ ts.length := by
  unfold Properties.ofTokens
  split <;> simp <;> omega

/-- The tag of a scalar; one without a name of its own is told by its form if it is plain. -/
def scalarTag (name : Option String) (plain : Bool) (text : String) : Tag :=
  match name with
  | none => if plain then .ofScalar text else .str
  | some "!" => .ofScalar text
  | some name => .ofName name

/-- The tag of a collection; one without a name has the common tag of its kind. -/
def collectionTag (name : Option String) (common : Tag) : Tag :=
  match name with
  | none => common
  | some "!" => common
  | some name => .ofName name

/-- Where a node stands: in a block, as part of a mapping of a block, or inside brackets. Only the
second place admits a sequence that is not indented. -/
inductive Place where
  | block
  | entry
  | flow
  deriving DecidableEq

/-- Whether a token starts the content of a node in a place. -/
def Place.admits (place : Place) : Token → Bool
  | .scalar _ _ _ | .flowSequenceStart | .flowMappingStart => true
  | .blockSequenceStart | .blockMappingStart => place ≠ .flow
  | .blockEntry => place = .entry
  | _ => false

/-- Whether nothing is written behind a mark in a block sequence. -/
def endsBlockItem : Token → Bool
  | .blockEntry | .blockEnd => true
  | _ => false

/-- Whether nothing is written behind a mark in a sequence that is not indented. -/
def endsLevelItem : Token → Bool
  | .blockEntry | .key | .value | .blockEnd => true
  | _ => false

/-- Whether nothing is written behind a mark in a block mapping. -/
def endsBlockEntry : Token → Bool
  | .key | .value | .blockEnd => true
  | _ => false

/-- Whether nothing is written behind a mark inside brackets. -/
def endsFlowEntry : Token → Bool
  | .flowEntry | .flowSequenceEnd | .flowMappingEnd => true
  | _ => false

/-- Whether no key is written behind its mark inside brackets. -/
def endsFlowKey (t : Token) : Bool := t == .value || endsFlowEntry t

/-- Something read from tokens, with the anchors met and fewer tokens left than a bound. -/
structure Read (α : Type) (bound : Nat) where
  value : α
  anchors : Anchors
  rest : List Token
  fewer : rest.length < bound

/-- Behind a comma, or at the start: what is next inside brackets. -/
def behindComma (first : Bool) (ts : List Token) : Except Fault (List Token) :=
  match first, ts with
  | true, ts => .ok ts
  | false, .flowEntry :: rest => .ok rest
  | false, ts => .error (misfit ts)

theorem length_behindComma_le {first : Bool} {ts rest : List Token}
    (behind : behindComma first ts = .ok rest) : rest.length ≤ ts.length := by
  unfold behindComma at behind
  split at behind <;> simp_all

theorem length_lt_of_behindComma {first : Bool} {ts rest : List Token} {t : Token}
    (behind : behindComma first ts = .ok (t :: rest)) : rest.length < ts.length :=
  length_behindComma_le behind

mutual

/-- A node with the names in front of it. -/
def readNode (handles : Handles) (place : Place) (anchors : Anchors) (ts : List Token) :
    Except Fault (Read Node ts.length) :=
  match ts with
  | .alias name :: rest => do return ⟨← anchors.resolve name, anchors, rest, by simp⟩
  | ts => do
      let names := Properties.ofTokens ts
      have within := Properties.length_rest_le ts
      let tag ← names.tag.mapM (·.full handles)
      let anchors ← anchors.announce names.anchor
      if names.rest.head?.any place.admits then
        let content ← readContent handles tag anchors names.rest
        return ⟨content.value, content.anchors.define names.anchor content.value, content.rest,
          Nat.lt_of_lt_of_le content.fewer within⟩
      else if fewer : names.rest.length < ts.length then
        let node := Node.scalar (scalarTag tag true "") ""
        return ⟨node, anchors.define names.anchor node, names.rest, fewer⟩
      else throw (misfit ts)
termination_by 8 * ts.length + 2

/-- The content of a node. -/
def readContent (handles : Handles) (tag : Option String) (anchors : Anchors) (ts : List Token) :
    Except Fault (Read Node ts.length) :=
  match ts with
  | .scalar text plain _ :: rest => do
      return ⟨.scalar (scalarTag tag plain text) text, anchors, rest, by simp⟩
  | .flowSequenceStart :: rest => do
      let items ← readFlowItems handles true anchors rest
      return ⟨.sequence (collectionTag tag .seq) items.value, items.anchors, items.rest, by
        have := items.fewer; simp; omega⟩
  | .flowMappingStart :: rest => do
      let entries ← readFlowEntries handles true anchors rest
      return ⟨.mapping (collectionTag tag .map) entries.value, entries.anchors, entries.rest, by
        have := entries.fewer; simp; omega⟩
  | .blockSequenceStart :: rest => do
      let items ← readBlockItems handles anchors rest
      return ⟨.sequence (collectionTag tag .seq) items.value, items.anchors, items.rest, by
        have := items.fewer; simp; omega⟩
  | .blockMappingStart :: rest => do
      let entries ← readBlockEntries handles anchors rest
      return ⟨.mapping (collectionTag tag .map) entries.value, entries.anchors, entries.rest, by
        have := entries.fewer; simp; omega⟩
  | .blockEntry :: rest => do
      let item ← readUnless handles endsLevelItem .block anchors rest
      have := item.fewer
      let items ← readLevelItems handles item.anchors item.rest
      return ⟨.sequence (collectionTag tag .seq) (item.value :: items.value), items.anchors,
        items.rest, by have := items.fewer; simp; omega⟩
  | ts => .error (misfit ts)
termination_by 8 * ts.length + 1

/-- A node, unless a token follows behind which nothing is written. -/
def readUnless (handles : Handles) (ends : Token → Bool) (place : Place) (anchors : Anchors)
    (ts : List Token) : Except Fault (Read Node (ts.length + 1)) := do
  if ts.head?.any ends then return ⟨.absent, anchors, ts, by omega⟩
  else
    let node ← readNode handles place anchors ts
    return ⟨node.value, node.anchors, node.rest, by have := node.fewer; omega⟩
termination_by 8 * ts.length + 3

/-- A value behind its mark; without the mark there is none. -/
def readValueOf (handles : Handles) (ends : Token → Bool) (place : Place) (anchors : Anchors)
    (ts : List Token) : Except Fault (Read Node (ts.length + 1)) :=
  match ts with
  | .value :: rest => do
      let node ← readUnless handles ends place anchors rest
      return ⟨node.value, node.anchors, node.rest, by have := node.fewer; simp; omega⟩
  | ts => do return ⟨.absent, anchors, ts, by omega⟩
termination_by 8 * ts.length + 4

/-- The items of a block sequence, to its end. -/
def readBlockItems (handles : Handles) (anchors : Anchors) (ts : List Token) :
    Except Fault (Read (List Node) ts.length) :=
  match ts with
  | .blockEntry :: rest => do
      let item ← readUnless handles endsBlockItem .block anchors rest
      have := item.fewer
      let items ← readBlockItems handles item.anchors item.rest
      return ⟨item.value :: items.value, items.anchors, items.rest, by
        have := items.fewer; simp; omega⟩
  | .blockEnd :: rest => do return ⟨[], anchors, rest, by simp⟩
  | ts => .error (misfit ts)
termination_by 8 * ts.length + 0

/-- The items of a sequence that is not indented. -/
def readLevelItems (handles : Handles) (anchors : Anchors) (ts : List Token) :
    Except Fault (Read (List Node) (ts.length + 1)) :=
  match ts with
  | .blockEntry :: rest => do
      let item ← readUnless handles endsLevelItem .block anchors rest
      have := item.fewer
      let items ← readLevelItems handles item.anchors item.rest
      return ⟨item.value :: items.value, items.anchors, items.rest, by
        have := items.fewer; simp; omega⟩
  | ts => do return ⟨[], anchors, ts, by omega⟩
termination_by 8 * ts.length + 0

/-- The entries of a block mapping, to its end. -/
def readBlockEntries (handles : Handles) (anchors : Anchors) (ts : List Token) :
    Except Fault (Read (List (Node × Node)) ts.length) :=
  match ts with
  | .key :: rest => do
      let key ← readUnless handles endsBlockEntry .entry anchors rest
      have := key.fewer
      let value ← readValueOf handles endsBlockEntry .entry key.anchors key.rest
      have := value.fewer
      let entries ← readBlockEntries handles value.anchors value.rest
      return ⟨(key.value, value.value) :: entries.value, entries.anchors, entries.rest, by
        have := entries.fewer; simp; omega⟩
  | .blockEnd :: rest => do return ⟨[], anchors, rest, by simp⟩
  | ts => .error (misfit ts)
termination_by 8 * ts.length + 0

/-- The items of a sequence in brackets, to its end; an item may be a single entry of a mapping. -/
def readFlowItems (handles : Handles) (first : Bool) (anchors : Anchors) (ts : List Token) :
    Except Fault (Read (List Node) ts.length) :=
  match ts with
  | .flowSequenceEnd :: rest => do return ⟨[], anchors, rest, by simp⟩
  | ts => do
      match behind : behindComma first ts with
      | .error fault => throw fault
      | .ok (.flowSequenceEnd :: rest) =>
          return ⟨[], anchors, rest, length_lt_of_behindComma behind⟩
      | .ok (.key :: rest) =>
          have := length_lt_of_behindComma behind
          let key ← readUnless handles endsFlowKey .flow anchors rest
          have := key.fewer
          let value ← readValueOf handles endsFlowEntry .flow key.anchors key.rest
          have := value.fewer
          let items ← readFlowItems handles false value.anchors value.rest
          return ⟨.mapping .map [(key.value, value.value)] :: items.value, items.anchors, items.rest,
            by have := items.fewer; omega⟩
      | .ok rest =>
          have := length_behindComma_le behind
          let item ← readNode handles .flow anchors rest
          have := item.fewer
          let items ← readFlowItems handles false item.anchors item.rest
          return ⟨item.value :: items.value, items.anchors, items.rest, by
            have := items.fewer; omega⟩
termination_by 8 * ts.length + 5

/-- The entries of a mapping in braces, to its end; a key may stand without a value. -/
def readFlowEntries (handles : Handles) (first : Bool) (anchors : Anchors) (ts : List Token) :
    Except Fault (Read (List (Node × Node)) ts.length) :=
  match ts with
  | .flowMappingEnd :: rest => do return ⟨[], anchors, rest, by simp⟩
  | ts => do
      match behind : behindComma first ts with
      | .error fault => throw fault
      | .ok (.flowMappingEnd :: rest) =>
          return ⟨[], anchors, rest, length_lt_of_behindComma behind⟩
      | .ok (.key :: rest) =>
          have := length_lt_of_behindComma behind
          let key ← readUnless handles endsFlowKey .flow anchors rest
          have := key.fewer
          let value ← readValueOf handles endsFlowEntry .flow key.anchors key.rest
          have := value.fewer
          let entries ← readFlowEntries handles false value.anchors value.rest
          return ⟨(key.value, value.value) :: entries.value, entries.anchors, entries.rest, by
            have := entries.fewer; omega⟩
      | .ok rest =>
          have := length_behindComma_le behind
          let key ← readNode handles .flow anchors rest
          have := key.fewer
          let entries ← readFlowEntries handles false key.anchors key.rest
          return ⟨(key.value, .absent) :: entries.value, entries.anchors, entries.rest, by
            have := entries.fewer; omega⟩
termination_by 8 * ts.length + 5

end

/-! ### Documents -/

/-- The directives in front of tokens. -/
def takeDirectives : List Token → List Directive × List Token
  | .directive directive :: rest =>
      let (more, rest) := takeDirectives rest
      (directive :: more, rest)
  | ts => ([], ts)

/-- The handles that directives declare, with the standard ones; no handle and no version may be
declared twice, and the version must be a first one. -/
def Handles.ofDirectives (versioned : Bool) (declared : Handles) :
    List Directive → Except Fault Handles
  | [] => .ok (declared ++ Handles.standard)
  | .version major :: rest =>
      if versioned || major ≠ 1 then .error (.malformed .directive)
      else ofDirectives true declared rest
  | .tag handle uri :: rest =>
      if (declared.lookup handle).isSome then .error (.malformed .directive)
      else ofDirectives versioned ((handle, uri) :: declared) rest
  | .other :: rest => ofDirectives versioned declared rest

/-- Whether no content is written behind the start of a document. -/
def endsDocument : Token → Bool
  | .directive _ | .documentStart | .documentEnd => true
  | _ => false

/-- The node of a document, and the tokens behind it. -/
def readDocument (ts : List Token) : Except Fault (Node × List Token) :=
  match takeDirectives ts with
  | (directives, .documentStart :: rest) => do
      let handles ← Handles.ofDirectives false [] directives
      if rest.head?.all endsDocument then return (.absent, rest)
      let node ← readNode handles .block [] rest
      return (node.value, node.rest)
  | ([], ts) => do
      let node ← readNode .standard .block [] ts
      return (node.value, node.rest)
  | (_, ts) => .error (misfit ts)

/-- The node of the only document, none if there is no document. -/
def Node.ofTokens? (ts : List Token) : Except Fault (Option Node) := do
  if ts.isEmpty then return none
  let (node, rest) ← readDocument ts
  match rest.dropWhile (· == .documentEnd) with
  | [] => return some node
  | more => throw (misfit more)

end SchemaAtlas.Yaml
