import Catalog.Annotated.Draft

/-! From an annotated struct to the draft of its declaration.
The attributes are taken in this order: the one of the collection, those of the fields, those of
the indexes. The first fault is reported.
-/

namespace Catalog.Annotated

open Source (Token Word)

/-- What a word stands for among the elements of an index, if it is a marker. -/
def marker? (word : Word) : Option FlatItem :=
  if word.raw then none
  else match word.name with
  | "Ref" => some (.element .selfReference)
  | "Ts" => some (.element .timestamp)
  | "Reverse" => some (.order .reverse)
  | "Default" => some (.order .default)
  | _ => none

/-- The meaning of a word among the elements of an index: a marker, or the member of a field. A
marker that is also a member could mean either.
-/
def resolve (members : List String) (word : Word) : Except Fault FlatItem :=
  match marker? word with
  | some item =>
    if word.name ∈ members then .error (.ambiguousElement word.name) else .ok item
  | none =>
    if word.name ∈ members then .ok (.element (.field word.name))
    else .error (.unknownField word.name)

/-- The meaning of a word among terms, where no order may stand. -/
def resolveTerm (members : List String) (word : Word) : Except Fault Element := do
  match ← resolve members word with
  | .element element => return element
  | .order _ => throw .orderInTerms

/-- A value that is read, and whether its order is reversed. -/
structure ValueDraft where
  element : Element
  reversed : Bool
  deriving DecidableEq

/-- The value of an index. -/
def ValueDraft.toSorted (draft : ValueDraft) : SortedElement :=
  if draft.reversed then { element := draft.element, order := .reverse }
  else { element := draft.element }

/-- The values that have been read, and whether the last of them has been given an order, or
there is none.
-/
structure ValueState where
  values : List ValueDraft := []
  modified : Bool := true

/-- Reads what a word among values stands for: a further value, or the order of the last one. -/
def ValueState.add (state : ValueState) : FlatItem → Except Fault ValueState
  | .element element => .ok ⟨state.values ++ [{ element, reversed := false }], false⟩
  | .order order =>
    match state.values.getLast? with
    | some last =>
      if state.modified then .error .danglingOrder
      else .ok ⟨state.values.dropLast ++ [{ last with reversed := order = .reverse }], true⟩
    | none => .error .danglingOrder

/-- Reads a word among values. -/
def resolveValue (members : List String) (state : ValueState) (word : Word)
    : Except Fault ValueState := do
  state.add (← resolve members word)

/-- The draft of an index of a type with the given members. -/
def IndexAttribute.toDraft (given : IndexAttribute) (members : List String)
    : Except Fault IndexDraft := do
  let terms ← given.terms.mapM (resolveTerm members)
  let read ← given.values.foldlM (resolveValue members) {}
  return {
    name? := given.name?
    terms
    values := read.values.map ValueDraft.toSorted
    unique := given.unique
    serialized? := given.serialized?
    data? := given.data?
    permissions? := given.permissions? }

/-- The field of a member, unless it is skipped. A rule gives it an alias where it changes the
name and none is given.
-/
def FieldAttribute.toField? (given : FieldAttribute) (rule? : Option RenameRule)
    (member : String) : Option Field :=
  if given.skipped then none
  else
    let renamed? := (rule?.map (·.apply member)).filter (· ≠ member)
    some { member, alias? := given.alias? <|> renamed? }

/-- The field of a member with its attributes, unless it is skipped. -/
def readField (rule? : Option RenameRule) (given : Source.Member)
    : Except Fault (Option Field) := do
  let readNext (merged : FieldAttribute) (found : Source.Attribute) := merged.read found.tokens
  let merged ← (Source.attributesNamed "field" given.attributes).foldlM readNext {}
  return merged.toField? rule? given.word.name

/-- What the collection attributes of an item say. There may be one at most. -/
def readCollection : List Source.Attribute → Except Fault CollectionAttribute
  | [] => .ok {}
  | [only] => CollectionAttribute.read only.tokens
  | first :: _ :: _ => do
    let _ ← CollectionAttribute.read first.tokens
    throw .repeatedCollection

/-- The fields of a struct. -/
def readFields (rule? : Option RenameRule) : Source.Body → Except Fault (List Field)
  | .named members => return (← members.mapM (readField rule?)).filterMap id
  | .unit => .ok []
  | .tuple => .error .unnamedFields
  | .other => .error .notStruct

/-- Reads an index attribute of a type with the given members. -/
def readIndex (members : List String) (given : Source.Attribute) : Except Fault IndexDraft := do
  (← IndexAttribute.read given.tokens).toDraft members

/-- The draft of an annotated item. -/
def expand (item : Source.Item) : Except Fault Draft := do
  if item.body = .other then throw .notStruct
  let collection ← readCollection (Source.attributesNamed "collection" item.attributes)
  let fields ← readFields collection.renameRule? item.body
  let indexes ←
    (Source.attributesNamed "index" item.attributes).mapM (readIndex (fields.map (·.member)))
  return {
    typeName := item.word.name
    base? := collection.base?
    fields
    collection? := if collection.declared then some collection else none
    indexes }

end Catalog.Annotated
