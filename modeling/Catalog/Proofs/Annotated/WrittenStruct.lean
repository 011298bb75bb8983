import Catalog.Annotated.Expansion
import Catalog.Proofs.Annotated.Attributes
import Catalog.Proofs.Source.WellFormedWords

/-! Annotated structs as they are written, and what they are expanded to.
A struct is written with its name, its members, and the settings that its attributes spell. It is
expanded exactly if its settings are sound and its indexes can be drafted; and then the draft says
what the settings say.
-/

namespace Catalog.Annotated

open Outcome
open Source (Word)

/-- A member of a struct and the settings of its field attributes. -/
structure WrittenMember where
  word : Word
  settings : List FieldSetting
  deriving DecidableEq

/-- A struct with its attributes. -/
structure WrittenStruct where
  word : Word
  /-- The settings of the collection attribute, if there is one. -/
  collection? : Option (List CollectionSetting)
  members : List WrittenMember
  indexes : List (List IndexSetting)
  deriving DecidableEq

-----------------------------------------------------------------------------------------
-- How structs are spelled
-----------------------------------------------------------------------------------------

/-- The collection attributes of a struct: one with the settings, or none. -/
inductive CollectionSpelled : Option (List CollectionSetting) → List Source.Attribute → Prop
  | none : CollectionSpelled none []
  | one {settings : List CollectionSetting} {found : Source.Attribute}
      (spelled : AttributeSpelled CollectionSetting.Spelled settings found.tokens)
      : CollectionSpelled (some settings) [found]

/-- A member has the word of the given one, and the settings of all its field attributes. -/
structure WrittenMember.SpelledBy (member : WrittenMember) (given : Source.Member) : Prop where
  word : given.word = member.word
  settings
    : ∃ groups,
        List.Forall₂ (fun found group => EnclosedSpelled FieldSetting.Spelled group found.tokens)
          (given.attributes.filter (·.name? = some "field")) groups
        ∧ groups.flatten = member.settings

/-- The item is a struct with named members or none, and its attributes spell the settings. -/
structure WrittenStruct.SpelledBy (written : WrittenStruct) (item : Source.Item) : Prop where
  word : item.word = written.word
  collection
    : CollectionSpelled written.collection?
        (item.attributes.filter (·.name? = some "collection"))
  members
    : ∃ members,
        item.body.members? = some members
        ∧ List.Forall₂ (fun given member => member.SpelledBy given) members written.members
  indexes
    : List.Forall₂
        (fun found settings => AttributeSpelled IndexSetting.Spelled settings found.tokens)
        (item.attributes.filter (·.name? = some "index")) written.indexes

-----------------------------------------------------------------------------------------
-- Reading structs
-----------------------------------------------------------------------------------------

/-- A member with the settings of its attributes. -/
def WrittenMember.read (given : Source.Member) : Except Fault WrittenMember := do
  let settings ← fieldSettings (Source.attributesNamed "field" given.attributes)
  return ⟨given.word, settings⟩

/-- The settings of the collection attribute, of which there may be one at most. -/
def collectionSettings : List Source.Attribute → Except Fault (Option (List CollectionSetting))
  | [] => .ok none
  | [only] => return some (← attributeSettings CollectionSetting.read only.tokens)
  | _ => .error .repeatedCollection

/-- The members of a struct. -/
def writtenMembers (body : Source.Body) : Except Fault (List WrittenMember) :=
  match body.members? with
  | some members => members.mapM WrittenMember.read
  | none => .error .unnamedFields

/-- The settings of an index attribute. -/
def indexSettings (given : Source.Attribute) : Except Fault (List IndexSetting) :=
  attributeSettings IndexSetting.read given.tokens

/-- The struct as it is written, if it has named members or none and its attributes are of the
form that attributes have.
-/
def WrittenStruct.read (item : Source.Item) : Except Fault WrittenStruct := do
  let collection? ← collectionSettings (Source.attributesNamed "collection" item.attributes)
  let members ← writtenMembers item.body
  let indexes ← (Source.attributesNamed "index" item.attributes).mapM indexSettings
  return { word := item.word, collection?, members, indexes }

theorem WrittenMember.read_eq_ok {given : Source.Member} {member : WrittenMember}
    : read given = .ok member ↔ member.SpelledBy given := by
  obtain ⟨word, settings⟩ := member
  simp only [read, fieldSettings, bind_eq_ok, mapM_eq_ok, pure_eq_ok,
    inParentheses_readSettings_eq_ok FieldSetting.read_reads, WrittenMember.mk.injEq]
  constructor
  · rintro ⟨_, ⟨groups, spelled, rfl⟩, same, rfl⟩
    exact ⟨same, groups, spelled, rfl⟩
  · rintro ⟨same, groups, spelled, rfl⟩
    exact ⟨_, ⟨groups, spelled, rfl⟩, same, rfl⟩

theorem collectionSettings_eq_ok {attributes : List Source.Attribute}
    {collection? : Option (List CollectionSetting)}
    : collectionSettings attributes = .ok collection?
      ↔ CollectionSpelled collection? attributes := by
  unfold collectionSettings
  split
  case h_1 =>
    constructor
    · rintro ⟨⟩
      exact .none
    · rintro ⟨⟩
      rfl
  case h_2 only =>
    simp only [bind_eq_ok, attributeSettings_eq_ok CollectionSetting.read_reads, pure_eq_ok]
    constructor
    · rintro ⟨settings, spelled, rfl⟩
      exact .one spelled
    · rintro ⟨⟩
      exact ⟨_, ‹_›, rfl⟩
  case h_3 none one =>
    constructor
    · rintro ⟨⟩
    · intro spelled
      cases spelled with
      | none => exact absurd rfl none
      | one => exact absurd rfl (one _)

theorem writtenMembers_eq_ok {body : Source.Body} {members : List WrittenMember}
    : writtenMembers body = .ok members
      ↔ ∃ given,
          body.members? = some given
          ∧ List.Forall₂ (fun given member => member.SpelledBy given) given members := by
  unfold writtenMembers
  cases body.members? with
  | none => simp
  | some given => simp [mapM_eq_ok, WrittenMember.read_eq_ok]

/-- A struct is read exactly if each of its parts is. -/
theorem WrittenStruct.read_eq_ok {item : Source.Item} {written : WrittenStruct}
    : read item = .ok written
      ↔ item.word = written.word
        ∧ collectionSettings (Source.attributesNamed "collection" item.attributes)
          = .ok written.collection?
        ∧ writtenMembers item.body = .ok written.members
        ∧ (Source.attributesNamed "index" item.attributes).mapM indexSettings
          = .ok written.indexes := by
  simp only [read, bind_eq_ok, pure_eq_ok]
  constructor
  · rintro ⟨_, collectionRead, _, membersRead, _, indexesRead, rfl⟩
    exact ⟨rfl, collectionRead, membersRead, indexesRead⟩
  · rintro ⟨named, collectionRead, membersRead, indexesRead⟩
    exact ⟨_, collectionRead, _, membersRead, _, indexesRead, by rw [named]⟩

/-- A struct is read exactly if it is spelled by the item. -/
theorem WrittenStruct.read_eq_ok_iff_spelledBy {item : Source.Item} {written : WrittenStruct}
    : read item = .ok written ↔ written.SpelledBy item := by
  simp only [read_eq_ok, collectionSettings_eq_ok, writtenMembers_eq_ok, mapM_eq_ok, indexSettings,
    attributeSettings_eq_ok IndexSetting.read_reads]
  exact ⟨fun ⟨word, collection, members, indexes⟩ => ⟨word, collection, members, indexes⟩,
    fun ⟨word, collection, members, indexes⟩ => ⟨word, collection, members, indexes⟩⟩

/-- An item spells one struct at most. -/
theorem WrittenStruct.SpelledBy.unique {item : Source.Item} {written other : WrittenStruct}
    (spelled : written.SpelledBy item) (otherSpelled : other.SpelledBy item)
    : written = other := by
  rw [← read_eq_ok_iff_spelledBy] at spelled otherSpelled
  exact Except.ok.inj (spelled.symm.trans otherSpelled)

/-- The name of a struct and those of its members are words of its item. -/
theorem WrittenStruct.SpelledBy.words_wellFormed {item : Source.Item} {written : WrittenStruct}
    (spelled : written.SpelledBy item) (wellFormed : item.WellFormed)
    : written.word.WellFormed ∧ ∀ member ∈ written.members, member.word.WellFormed := by
  refine ⟨spelled.word ▸ wellFormed.name, fun member listed => ?_⟩
  obtain ⟨members, present, each⟩ := spelled.members
  obtain ⟨given, declared, memberSpelled⟩ := exists_mem_of_forall₂ each.flip member listed
  exact memberSpelled.word ▸ wellFormed.of_member members present given declared

-----------------------------------------------------------------------------------------
-- What structs say
-----------------------------------------------------------------------------------------

/-- The name that is given for a member, or else the one that a rule makes of it, if it differs. -/
def WrittenMember.alias? (rule? : Option RenameRule) (member : WrittenMember) : Option String :=
  match (FieldAttribute.summary member.settings).alias?, rule? with
  | some given, _ => some given
  | none, some rule =>
    if rule.apply member.word.name = member.word.name then none
    else some (rule.apply member.word.name)
  | none, none => none

/-- The fields that members stand for under a rule for their names: those of the members that
are not skipped.
-/
def WrittenMember.fieldsOf (rule? : Option RenameRule) (members : List WrittenMember)
    : List Field :=
  (members.filter fun member => .skip ∉ member.settings).map fun member =>
    { member := member.word.name, alias? := member.alias? rule? }

namespace WrittenStruct

/-- What the collection attribute says; without one, nothing. -/
def collection (written : WrittenStruct) : CollectionAttribute :=
  (written.collection?.map CollectionAttribute.summary).getD {}

/-- The fields of the members. -/
def fields (written : WrittenStruct) : List Field :=
  WrittenMember.fieldsOf written.collection.renameRule? written.members

/-- The members that indexes can refer to. -/
def declared (written : WrittenStruct) : List String :=
  written.fields.map Field.member

/-- The settings of the collection attribute make one. -/
def CollectionSound (written : WrittenStruct) : Prop :=
  ∀ settings ∈ written.collection?,
    CollectionAttribute.ofSettings settings = .ok (CollectionAttribute.summary settings)

/-- The draft that the struct stands for, with the drafts of its indexes. -/
def draft (written : WrittenStruct) (indexes : List IndexDraft) : Draft where
  typeName := written.word.name
  base? := written.collection.base?
  fields := written.fields
  collection? := if written.collection.declared then some written.collection else none
  indexes := indexes

end WrittenStruct

/-- The draft of an index with the given settings. -/
def draftIndex (members : List String) (settings : List IndexSetting)
    : Except Fault IndexDraft := do
  (← IndexAttribute.ofSettings settings).toDraft members

-----------------------------------------------------------------------------------------
-- Expansion
-----------------------------------------------------------------------------------------

namespace WrittenMember

/-- The field that a member stands for under a rule for its name, unless it is skipped. -/
def field? (rule? : Option RenameRule) (member : WrittenMember) : Option Field :=
  if .skip ∈ member.settings then none
  else some { member := member.word.name, alias? := member.alias? rule? }

/-- The settings of a member's attributes make its field. -/
theorem toField?_eq (rule? : Option RenameRule) (member : WrittenMember)
    : (FieldAttribute.summary member.settings).toField? rule? member.word.name
      = member.field? rule? := by
  have skipped : (FieldAttribute.summary member.settings).skipped = true
      ↔ .skip ∈ member.settings := by
    simp [FieldAttribute.summary]
  unfold FieldAttribute.toField? field? alias?
  simp only [skipped]
  cases (FieldAttribute.summary member.settings).alias? with
  | some given => rfl
  | none =>
      cases rule? with
      | none => rfl
      | some rule =>
          by_cases same : rule.apply member.word.name = member.word.name <;>
            simp [same, Option.filter_some]

/-- The field of a member is read exactly if the settings of its attributes are. -/
theorem readField_eq_ok {rule? : Option RenameRule} (given : Source.Member)
    (field? : Option Field)
    : readField rule? given = .ok field?
      ↔ ∃ member, read given = .ok member
        ∧ (pure (member.field? rule?) : Except Fault (Option Field)) = .ok field? := by
  simp only [readField, read, bind_eq_ok, FieldAttribute.foldlM_read_eq_ok,
    FieldAttribute.foldl_put, pure_eq_ok]
  constructor
  · rintro ⟨_, ⟨settings, consist, rfl⟩, rfl⟩
    exact ⟨⟨given.word, settings⟩, ⟨settings, consist, rfl⟩, (toField?_eq rule? _).symm⟩
  · rintro ⟨_, ⟨settings, consist, rfl⟩, rfl⟩
    exact ⟨_, ⟨settings, consist, rfl⟩, toField?_eq rule? ⟨given.word, settings⟩⟩

/-- The fields are those of the members that are not skipped, by induction on the members. -/
theorem filterMap_eq_fieldsOf (rule? : Option RenameRule) (members : List WrittenMember)
    : (members.map (field? rule?)).filterMap id = fieldsOf rule? members := by
  induction members with
  | nil => rfl
  | cons member rest ih =>
      rw [fieldsOf] at ih ⊢
      rw [List.map_cons, List.filterMap_cons, ih, field?]
      by_cases skipped : .skip ∈ member.settings
      · rw [if_pos skipped, List.filter_cons_of_neg (by simpa using skipped)]
        rfl
      · rw [if_neg skipped, List.filter_cons_of_pos (by simpa using skipped)]
        rfl

end WrittenMember

/-- Fields are read exactly if the members of a struct are, and are those of its members. -/
theorem readFields_eq_ok {rule? : Option RenameRule} {body : Source.Body} {fields : List Field}
    : readFields rule? body = .ok fields
      ↔ ∃ members, writtenMembers body = .ok members
        ∧ WrittenMember.fieldsOf rule? members = fields := by
  have named (members : List Source.Member)
      : (do return (← members.mapM (readField rule?)).filterMap id) = Except.ok fields
        ↔ ∃ written, members.mapM WrittenMember.read = .ok written
          ∧ WrittenMember.fieldsOf rule? written = fields := by
    simp only [bind_eq_ok, mapM_comp_eq_ok WrittenMember.readField_eq_ok, List.mapM_pure,
      pure_eq_ok]
    constructor
    · rintro ⟨_, ⟨written, consist, rfl⟩, rfl⟩
      exact ⟨written, consist, (WrittenMember.filterMap_eq_fieldsOf rule? written).symm⟩
    · rintro ⟨written, consist, rfl⟩
      exact ⟨_, ⟨written, consist, rfl⟩, WrittenMember.filterMap_eq_fieldsOf rule? written⟩
  cases body with
  | named members => exact named members
  | unit => exact named []
  | tuple | other => simp [readFields, writtenMembers, Source.Body.members?]

/-- The collection attribute is read exactly if it is written as settings that make one. -/
theorem readCollection_eq_ok {attributes : List Source.Attribute} {collection : CollectionAttribute}
    : readCollection attributes = .ok collection
      ↔ ∃ settings?, collectionSettings attributes = .ok settings?
        ∧ (∀ settings ∈ settings?,
            CollectionAttribute.ofSettings settings = .ok (CollectionAttribute.summary settings))
        ∧ (settings?.map CollectionAttribute.summary).getD {} = collection := by
  match attributes with
  | [] => simp [readCollection, collectionSettings]
  | [only] =>
      simp only [readCollection, collectionSettings, CollectionAttribute.read_eq_ok, bind_eq_ok,
        pure_eq_ok]
      constructor
      · rintro ⟨settings, consist, made⟩
        obtain ⟨_, _, rfl⟩ := CollectionAttribute.ofSettings_eq_ok.mp made
        refine ⟨some settings, ⟨settings, consist, rfl⟩, ?_, rfl⟩
        rintro _ ⟨⟩
        exact made
      · rintro ⟨_, ⟨settings, consist, rfl⟩, made, rfl⟩
        exact ⟨settings, consist, made settings rfl⟩
  | first :: second :: rest =>
      simp [readCollection, collectionSettings, bind_eq_ok]

/-- An index is read exactly if the settings of its attribute are and they can be drafted. -/
theorem readIndex_eq_ok {members : List String} (given : Source.Attribute) (draft : IndexDraft)
    : readIndex members given = .ok draft
      ↔ ∃ settings, indexSettings given = .ok settings
        ∧ draftIndex members settings = .ok draft := by
  simp only [readIndex, draftIndex, bind_eq_ok, IndexAttribute.read_eq_ok, indexSettings]
  constructor
  · rintro ⟨index, ⟨settings, consist, made⟩, drafted⟩
    exact ⟨settings, consist, index, made, drafted⟩
  · rintro ⟨settings, consist, index, made, drafted⟩
    exact ⟨index, ⟨settings, consist, made⟩, drafted⟩

/-- An item is expanded exactly if it spells a struct whose settings are sound and whose indexes
can be drafted.
-/
theorem expand_eq_ok {item : Source.Item} {draft : Draft}
    : expand item = .ok draft
      ↔ ∃ written : WrittenStruct, ∃ indexes, written.SpelledBy item
        ∧ written.CollectionSound
        ∧ written.indexes.mapM (draftIndex written.declared) = .ok indexes
        ∧ written.draft indexes = draft := by
  simp only [← WrittenStruct.read_eq_ok_iff_spelledBy]
  -- What is no struct is refused before its attributes are looked at.
  by_cases other : item.body = .other
  case pos =>
    have refused : writtenMembers item.body = .error .unnamedFields := by
      rw [other]
      rfl
    rw [expand, if_pos other]
    simp [WrittenStruct.read, bind_eq_ok, refused]
  case neg =>
    rw [expand, if_neg other]
    simp only [bind_eq_ok, readCollection_eq_ok, readFields_eq_ok,
      mapM_comp_eq_ok readIndex_eq_ok, pure_eq_ok, WrittenStruct.read_eq_ok]
    constructor
    · rintro ⟨_, ⟨collection?, collectionRead, sound, rfl⟩, _, ⟨members, membersRead, rfl⟩, drafts,
        ⟨indexes, indexesRead, drafted⟩, rfl⟩
      exact ⟨⟨item.word, collection?, members, indexes⟩, drafts,
        ⟨rfl, collectionRead, membersRead, indexesRead⟩, sound, drafted, rfl⟩
    · rintro ⟨⟨_, collection?, members, indexes⟩, drafts,
        ⟨rfl, collectionRead, membersRead, indexesRead⟩, sound, drafted, rfl⟩
      exact ⟨_, ⟨collection?, collectionRead, sound, rfl⟩, _, ⟨members, membersRead, rfl⟩, drafts,
        ⟨indexes, indexesRead, drafted⟩, rfl⟩

end Catalog.Annotated
