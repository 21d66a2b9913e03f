import SchemaAtlas.Structure.Rule

/-! # Documents that cannot be examined

A dictionary in place of a list is tried as if the rule of the items described its keys. A key that
spells an attribute of that rule defeats the examination altogether. The same happens one level
further in where a list stands in place of a record that has a field called `schema`.
-/

namespace SchemaAtlas.Structure

open Document

/-- The kinds, fields and item rule of a rule are attributes; so is admitting null. -/
def Rule.attributes : Rule → List String
  | .mk kinds nullable _ _ _ =>
      "type" :: (if nullable then ["nullable"] else []) ++
        (if kinds == [.dict] then ["allow_unknown"] else [])

/-- Whether a dictionary has a key that spells an attribute of a rule. -/
def spellsAttribute (rule : Rule) (entries : Entries) : Bool := rule.attributes.any entries.has

/-- The rule of a record's field called `schema`. -/
def schemaField? : Rule → Option Rule
  | .mk _ _ _ _ fields => (fields.lookup "schema").map (·.2)

/-- Whether a list in place of a record contains a dictionary that defeats the examination. -/
def nestedDefeat (rule : Rule) (items : List Value) : Bool :=
  match schemaField? rule with
  | some field => items.any fun item =>
      match item with
      | .dict entries => spellsAttribute field entries
      | _ => false
  | none => false

mutual

/-- Whether a value defeats the examination by a rule. -/
def Rule.defeatedBy : Rule → Value → Bool
  | .mk _ _ _ items fields, value =>
      match value with
      | .dict entries => keysDefeat items entries || fieldsDefeat fields entries
      | value => itemsDefeat items (listItems value)

/-- Whether the keys of a dictionary in place of a list defeat the examination. -/
def keysDefeat : Option Rule → Entries → Bool
  | none, _ => false
  | some rule, entries => spellsAttribute rule entries

/-- Whether an item of a list defeats the examination. -/
def itemsDefeat : Option Rule → List Value → Bool
  | none, _ => false
  | some rule, values => values.any fun value =>
      rule.defeatedBy value || nestedDefeat rule (listItems value)

/-- Whether a field of a record defeats the examination. -/
def fieldsDefeat : List (String × Bool × Rule) → Entries → Bool
  | [], _ => false
  | (name, _, rule) :: fields, entries =>
      ((entries.get? name).any rule.defeatedBy) || fieldsDefeat fields entries

end

end SchemaAtlas.Structure
