import Catalog.Proofs.Annotated.Elements
import Catalog.Proofs.Annotated.WrittenStruct
import Catalog.Proofs.Declaration.Acceptance

/-! Drafts of annotated structs can be declared, apart from their names.
Whatever else could be wrong with a declaration is checked when the struct is expanded: texts of
objects hold objects, elements of indexes refer to declared members, and orders follow values. So
only names and aliases are left to be refused.
-/

namespace Catalog.Annotated

open Outcome

-----------------------------------------------------------------------------------------
-- What expansion checks
-----------------------------------------------------------------------------------------

/-- The texts of a collection hold objects. -/
structure CollectionAttribute.Sound (given : CollectionAttribute) : Prop where
  data : ∀ text ∈ given.data?, HoldsObject text
  permissions : ∀ text ∈ given.permissions?, HoldsObject text

/-- The texts of an index hold objects, and its elements refer to some of the members. -/
structure IndexDraft.Sound (draft : IndexDraft) (members : List String) : Prop where
  data : ∀ text ∈ draft.data?, HoldsObject text
  permissions : ∀ text ∈ draft.permissions?, HoldsObject text
  declared : ∀ element ∈ draft.terms ++ draft.values.map SortedElement.element,
    ∀ member ∈ element.member?, member ∈ members

/-- The type and its members have names, and the parts are sound. -/
structure Draft.Sound (draft : Draft) : Prop where
  named : draft.typeName ≠ ""
  member_ne : ∀ field ∈ draft.fields, field.member ≠ ""
  of_collection : ∀ given ∈ draft.collection?, given.Sound
  of_index : ∀ index ∈ draft.indexes, index.Sound (draft.fields.map Field.member)

/-- Sound settings make a sound attribute. -/
theorem CollectionAttribute.sound_of_settings {settings : List CollectionSetting}
    (sound : ∀ setting ∈ settings, setting.Sound)
    : (summary settings).Sound where
  data text given := sound (.data text) (mem_of_data? given)
  permissions text given := sound (.permissions text) (mem_of_permissions? given)

/-- The collection attribute of a struct with sound settings is sound. -/
theorem WrittenStruct.collection_sound {written : WrittenStruct} (sound : written.CollectionSound)
    : written.collection.Sound := by
  unfold collection
  cases given : written.collection? with
  | none => exact ⟨nofun, nofun⟩
  | some settings =>
      have made := CollectionAttribute.ofSettings_eq_ok.mp (sound settings given)
      exact CollectionAttribute.sound_of_settings made.1

/-- The draft of an index is sound. -/
theorem IndexDraft.sound_of_draftIndex {members : List String} {settings : List IndexSetting}
    {draft : IndexDraft} (drafted : draftIndex members settings = .ok draft)
    : draft.Sound members := by
  obtain ⟨given, made, resolved⟩ := bind_eq_ok.mp drafted
  obtain ⟨sound, rfl⟩ := IndexAttribute.ofSettings_eq_ok.mp made
  have declared := IndexAttribute.toDraft_declared resolved
  obtain ⟨terms, items, values, _, _, _, rfl⟩ := IndexAttribute.toDraft_eq_ok.mp resolved
  exact {
    data := fun text given => sound (.data text) (IndexAttribute.mem_of_data? given)
    permissions := fun text given =>
      sound (.permissions text) (IndexAttribute.mem_of_permissions? given)
    declared }

/-- What a struct of a text is expanded to is sound. -/
theorem Draft.sound_of_expand {source : String} {item : Source.Item} {draft : Draft}
    (parsed : Source.Item.parse? source = some item) (expanded : expand item = .ok draft)
    : draft.Sound := by
  obtain ⟨written, indexes, spelled, collectionSound, drafted, rfl⟩ := expand_eq_ok.mp expanded
  obtain ⟨named, memberNamed⟩ :=
    spelled.words_wellFormed (Source.Item.parse?_wellFormed parsed)
  refine ⟨named.name_ne, ?_, ?_, ?_⟩
  · intro field listed
    obtain ⟨member, kept, rfl⟩ := List.mem_map.mp listed
    exact (memberNamed member (List.mem_filter.mp kept).1).name_ne
  · intro given declared
    obtain ⟨_, same⟩ := Option.ite_none_right_eq_some.mp declared
    exact Option.some.inj same ▸ written.collection_sound collectionSound
  · intro index listed
    obtain ⟨settings, _, resolved⟩ := exists_of_mem_mapM drafted index listed
    exact IndexDraft.sound_of_draftIndex resolved

-----------------------------------------------------------------------------------------
-- Declaring a sound draft
-----------------------------------------------------------------------------------------

/-- Texts that hold objects are parsed. -/
theorem exists_mapM_parse (property : String) {text? : Option String}
    (sound : ∀ text ∈ text?, HoldsObject text)
    : ∃ object?, text?.mapM (JsonObject.parse property) = .ok object? := by
  cases text? with
  | none => exact ⟨none, rfl⟩
  | some text =>
      obtain ⟨entries, parsed⟩ := sound text rfl
      exact ⟨some entries, option_mapM_some_eq_ok.mpr ⟨entries, parse_eq_ok.mpr parsed, rfl⟩⟩

/-- The declaration of an index has the data of its texts, and the rest of its draft. -/
theorem IndexDraft.toDeclaration_eq_ok {draft : IndexDraft} {index : IndexDeclaration}
    : draft.toDeclaration = .ok index
      ↔ ∃ data?, draft.data?.mapM (JsonObject.parse "data") = .ok data?
        ∧ ∃ permissions?,
          draft.permissions?.mapM (JsonObject.parse "permissions") = .ok permissions?
          ∧ { name? := draft.name?
              terms := draft.terms
              values := draft.values
              unique := draft.unique
              serialized := draft.serialized?.getD true
              data?, permissions? : IndexDeclaration } = index := by
  simp only [toDeclaration, bind_eq_ok, pure_eq_ok]

/-- A sound index is declared. -/
theorem IndexDraft.Sound.exists_toDeclaration {draft : IndexDraft} {members : List String}
    (sound : draft.Sound members)
    : ∃ index, draft.toDeclaration = .ok index := by
  obtain ⟨data?, dataParsed⟩ := exists_mapM_parse "data" sound.data
  obtain ⟨permissions?, permissionsParsed⟩ :=
    exists_mapM_parse "permissions" sound.permissions
  exact ⟨_, IndexDraft.toDeclaration_eq_ok.mpr
    ⟨data?, dataParsed, permissions?, permissionsParsed, rfl⟩⟩

/-- The declaration of a collection has the data of its texts, and the rest of its attribute. -/
theorem CollectionAttribute.toDeclaration_eq_ok {given : CollectionAttribute} {typeName : String}
    {collection : CollectionDeclaration}
    : given.toDeclaration typeName = .ok collection
      ↔ ∃ data?, given.data?.mapM (JsonObject.parse "data") = .ok data?
        ∧ ∃ permissions?,
          given.permissions?.mapM (JsonObject.parse "permissions") = .ok permissions?
          ∧ { name := given.name?.getD typeName
              ttlDays? := given.ttlDays?
              historyDays? :=
                if given.noHistory then none
                else some (given.historyDays?.getD defaultHistoryDays)
              data?, permissions? : CollectionDeclaration } = collection := by
  simp only [toDeclaration, bind_eq_ok, pure_eq_ok]

/-- A sound collection is declared. -/
theorem CollectionAttribute.Sound.exists_toDeclaration {given : CollectionAttribute}
    (sound : given.Sound) (typeName : String)
    : ∃ collection, given.toDeclaration typeName = .ok collection := by
  obtain ⟨data?, dataParsed⟩ := exists_mapM_parse "data" sound.data
  obtain ⟨permissions?, permissionsParsed⟩ := exists_mapM_parse "permissions" sound.permissions
  exact ⟨_, CollectionAttribute.toDeclaration_eq_ok.mpr
    ⟨data?, dataParsed, permissions?, permissionsParsed, rfl⟩⟩

namespace Draft

variable {draft : Draft} (nameOf : Source.Path → String)

/-- The name of the collection of a draft: the one that is given, or else that of the type. -/
def collectionName (draft : Draft) : String :=
  (draft.collection?.bind CollectionAttribute.name?).getD draft.typeName

/-- The collection of a sound draft is declared, under its name. -/
theorem Sound.exists_collection (sound : draft.Sound)
    : ∃ collection?, draft.collection?.mapM (·.toDeclaration draft.typeName) = .ok collection?
        ∧ (collection?.getD { name := draft.typeName }).name = draft.collectionName := by
  rw [collectionName]
  cases declared : draft.collection? with
  | none => exact ⟨none, rfl, rfl⟩
  | some given =>
      obtain ⟨collection, made⟩ :=
        (sound.of_collection given declared).exists_toDeclaration draft.typeName
      refine ⟨some collection, option_mapM_some_eq_ok.mpr ⟨collection, made, rfl⟩, ?_⟩
      obtain ⟨_, _, _, _, rfl⟩ := CollectionAttribute.toDeclaration_eq_ok.mp made
      rfl

/-- A type consists of the parts of a draft. -/
structure Makes (draft : Draft) (type : TypeDeclaration) : Prop where
  typeName : type.typeName = draft.typeName
  fields : type.fields.toList = draft.fields
  collection : type.collection.name = draft.collectionName
  indexes : draft.indexes.mapM IndexDraft.toDeclaration = .ok type.indexes

/-- A sound draft whose fields can stand together makes a type, which then is checked. -/
theorem Sound.declare_eq (sound : draft.Sound) {fields : FieldMap}
    (together : FieldMap.ofList draft.fields = .ok fields)
    : ∃ type, draft.Makes type
        ∧ draft.declare nameOf = (do
          type.validate
          return type) := by
  obtain ⟨collection?, declared, named⟩ := sound.exists_collection
  obtain ⟨indexes, made⟩ : ∃ indexes, draft.indexes.mapM IndexDraft.toDeclaration = .ok indexes :=
    exists_mapM_eq_ok fun index member => (sound.of_index index member).exists_toDeclaration
  refine ⟨⟨draft.typeName, draft.base?.map nameOf, fields, collection?, indexes⟩, ?_, ?_⟩
  · exact ⟨rfl, FieldMap.ofList_eq_ok.mp together, named, made⟩
  · rw [declare]
    simp only [together, declared, made, ok_bind]

/-- The indexes of a sound draft refer to its members. -/
theorem Sound.declares (sound : draft.Sound) {type : TypeDeclaration} (makes : draft.Makes type)
    : ∀ index ∈ type.indexes, type.Declares index := by
  intro index listed member referred
  obtain ⟨given, present, declared⟩ := exists_of_mem_mapM makes.indexes index listed
  obtain ⟨_, _, _, _, rfl⟩ := IndexDraft.toDeclaration_eq_ok.mp declared
  obtain ⟨element, used, refers⟩ := List.mem_filterMap.mp referred
  have found := (sound.of_index given present).declared element used member refers
  exact makes.fields ▸ List.mem_map.mp found

/-- The names that indexes are given are accepted exactly if those of their drafts are. -/
theorem Makes.explicitNames_accepted {type : TypeDeclaration} (makes : draft.Makes type)
    : (∀ index ∈ type.indexes, ∀ name ∈ index.explicitName?, Accepted name)
      ↔ ∀ index ∈ draft.indexes, ∀ name ∈ index.name?, name ≠ "" → name ∉ reservedNames := by
  have each {given : IndexDraft} {index : IndexDeclaration}
      (declared : given.toDeclaration = .ok index)
      : (∀ name ∈ index.explicitName?, Accepted name)
        ↔ ∀ name ∈ given.name?, name ≠ "" → name ∉ reservedNames := by
    obtain ⟨_, _, _, _, rfl⟩ := IndexDraft.toDeclaration_eq_ok.mp declared
    simp only [IndexDeclaration.explicitName?, Accepted, Option.mem_def, Option.filter_eq_some_iff,
      decide_eq_true_eq]
    exact ⟨fun accepted name given named => (accepted name ⟨given, named⟩).2,
      fun unreserved name given => ⟨given.2, unreserved name given.1 given.2⟩⟩
  constructor
  · intro accepted given listed
    obtain ⟨index, present, declared⟩ := exists_mem_of_mapM makes.indexes given listed
    exact (each declared).mp (accepted index present)
  · intro unreserved index present
    obtain ⟨given, listed, declared⟩ := exists_of_mem_mapM makes.indexes index present
    exact (each declared).mpr (unreserved given listed)

/-- A sound draft is declared exactly if its fields can stand together and the names that it is
given are accepted.
-/
theorem Sound.exists_declare_iff (sound : draft.Sound)
    : (∃ type, draft.declare nameOf = .ok type)
      ↔ FieldMap.Valid draft.fields
        ∧ Accepted draft.collectionName
        ∧ ∀ index ∈ draft.indexes, ∀ name ∈ index.name?, name ≠ "" → name ∉ reservedNames := by
  rw [← FieldMap.exists_ofList_eq_ok]
  cases together : FieldMap.ofList draft.fields with
  | error refused => simp [declare, together, bind, Except.bind]
  | ok fields =>
      obtain ⟨type, makes, declare⟩ := sound.declare_eq nameOf together
      have named : type.typeName ≠ "" := makes.typeName ▸ sound.named
      have declares := sound.declares makes
      rw [declare, ← makes.collection, ← makes.explicitNames_accepted]
      simp only [check_bind_eq_ok, pure_eq_ok, TypeDeclaration.validate_eq_ok]
      constructor
      · rintro ⟨_, ⟨_, collection, accepted⟩, _⟩
        exact ⟨⟨fields, rfl⟩, collection, fun index listed => (accepted index listed).1⟩
      · rintro ⟨_, collection, accepted⟩
        exact ⟨type, ⟨named, collection, fun index listed =>
          ⟨accepted index listed, declares index listed⟩⟩, rfl⟩

/-- A sound draft is refused only for its fields or for a name that is given. -/
theorem Sound.declare_fails (sound : draft.Sound)
    : FailsOnly (fun error => error.OfName ∨ error.OfFields) (draft.declare nameOf) := by
  intro error failed
  cases together : FieldMap.ofList draft.fields with
  | error refused =>
      rw [declare, together] at failed
      cases failed
      exact .inr (FieldMap.ofList_fails error together)
  | ok fields =>
      obtain ⟨type, makes, declare⟩ := sound.declare_eq nameOf together
      have named : type.typeName ≠ "" := makes.typeName ▸ sound.named
      have refuses := TypeDeclaration.validate_refuses named (sound.declares makes)
      rw [declare] at failed
      exact .inl (refuses.bind (fun _ => .ok type) error failed)

end Draft

-----------------------------------------------------------------------------------------
-- Declaring an expanded struct
-----------------------------------------------------------------------------------------

namespace WrittenStruct

/-- The names of a struct are accepted: that of its collection, which is the one given or else
that of the type, and those given for its indexes. Its fields have distinct members and distinct
stored names, and no alias is empty.
-/
structure Declarable (written : WrittenStruct) : Prop where
  collection : Accepted (written.collection.name?.getD written.word.name)
  of_index : ∀ settings ∈ written.indexes,
    ∀ name ∈ (IndexAttribute.summary settings).name?, name ≠ "" → name ∉ reservedNames
  members_nodup : (written.fields.map Field.member).Nodup
  alias_ne : ∀ field ∈ written.fields, field.alias? ≠ some ""
  storedNames_nodup : (written.fields.map Field.storedName).Nodup

variable {written : WrittenStruct}

/-- Whoever names a collection declares it. -/
theorem name?_of_undeclared (undeclared : written.collection.declared ≠ true)
    : written.collection.name? = none := by
  revert undeclared
  unfold collection
  cases written.collection? with
  | none => exact fun _ => rfl
  | some settings =>
      intro undeclared
      cases named : (CollectionAttribute.summary settings).name? with
      | none => exact named
      | some name =>
          obtain ⟨setting, member, selected⟩ := mem_of_lastGiven named
          have declares : setting.declares = true := by
            cases setting with
            | name => rfl
            | _ => nomatch selected
          have declared : settings.any CollectionSetting.declares = true :=
            List.any_eq_true.mpr ⟨setting, member, declares⟩
          exact absurd (Bool.or_eq_true_iff.mpr (.inl declared)) undeclared

/-- The collection of a struct has the name that is given, or else that of the struct. -/
theorem collectionName_draft (written : WrittenStruct) (indexes : List IndexDraft)
    : (written.draft indexes).collectionName
      = written.collection.name?.getD written.word.name := by
  unfold Draft.collectionName draft
  by_cases declared : written.collection.declared = true
  · rw [if_pos declared, Option.bind_some]
  · rw [if_neg declared, Option.bind_none, name?_of_undeclared declared]

/-- The draft of an index has the name that its settings give. -/
theorem name?_of_draftIndex {members : List String} {settings : List IndexSetting}
    {draft : IndexDraft} (drafted : draftIndex members settings = .ok draft)
    : draft.name? = (IndexAttribute.summary settings).name? := by
  obtain ⟨given, made, resolved⟩ := bind_eq_ok.mp drafted
  obtain ⟨_, rfl⟩ := IndexAttribute.ofSettings_eq_ok.mp made
  obtain ⟨_, _, _, _, _, _, rfl⟩ := IndexAttribute.toDraft_eq_ok.mp resolved
  rfl

/-- A struct of a text that is expanded is declared exactly if its names are accepted and its
fields can stand together, whatever name the type has from which it derives. Otherwise it is refused
for a name or for its fields, and for nothing that its expansion could have found.
-/
theorem declare_of_expand {source : String} {item : Source.Item} {draft : Draft}
    (nameOf : Source.Path → String) (parsed : Source.Item.parse? source = some item)
    (expanded : expand item = .ok draft)
    : ∃ written : WrittenStruct, written.SpelledBy item
        ∧ ((∃ type, draft.declare nameOf = .ok type) ↔ written.Declarable)
        ∧ ∀ error, draft.declare nameOf = .error error → error.OfName ∨ error.OfFields := by
  have sound := Draft.sound_of_expand parsed expanded
  obtain ⟨written, indexes, spelled, _, drafted, rfl⟩ := expand_eq_ok.mp expanded
  refine ⟨written, spelled, (sound.exists_declare_iff nameOf).trans ?_,
    sound.declare_fails nameOf⟩
  rw [collectionName_draft]
  constructor
  · rintro ⟨valid, collection, unreserved⟩
    refine ⟨collection, ?_, valid.members_nodup, valid.alias_ne, valid.storedNames_nodup⟩
    intro settings listed
    obtain ⟨index, present, resolved⟩ := exists_mem_of_mapM drafted settings listed
    exact name?_of_draftIndex resolved ▸ unreserved index present
  · intro declarable
    refine ⟨?_, declarable.collection, ?_⟩
    · exact ⟨sound.member_ne, declarable.alias_ne, declarable.members_nodup,
        declarable.storedNames_nodup⟩
    · intro index present
      obtain ⟨settings, listed, resolved⟩ := exists_of_mem_mapM drafted index present
      exact name?_of_draftIndex resolved ▸ declarable.of_index settings listed

/-- A struct whose collection is given a reserved name is expanded, and is refused for that name
when it is declared.
-/
theorem declare_of_expand_event
    : let source := "#[collection(name = \"events\")] #[index(values = [r#type, Reverse])] "
        ++ "struct Event \x7b r#type: u8 \x7d"
      let item : Source.Item := {
        attributes := [
          { name? := some "collection"
            tokens := [.opening .round, .word ⟨"name", false⟩, .mark '=' false, .text "events",
              .closing .round] },
          { name? := some "index"
            tokens := [.opening .round, .word ⟨"values", false⟩, .mark '=' false,
              .opening .square, .word ⟨"type", true⟩, .mark ',' false, .word ⟨"Reverse", false⟩,
              .closing .square, .closing .round] }]
        word := ⟨"Event", false⟩
        body := .named [⟨[], ⟨"type", true⟩⟩] }
      let draft : Draft := {
        typeName := "Event"
        fields := [{ member := "type", alias? := none }]
        collection? := some { declared := true, name? := some "events" }
        indexes := [{ values := [{ element := .field "type", order := .reverse }] }] }
      Source.Item.parse? source = some item
      ∧ expand item = .ok draft
      ∧ (∀ nameOf, draft.declare nameOf = .error (.invalidName .collection "events" .reserved))
      ∧ ∃ written : WrittenStruct, written.SpelledBy item ∧ ¬written.Declarable := by
  intro source item draft
  have parsed : Source.Item.parse? source = some item := by decide +kernel
  have expanded : expand item = .ok draft := by decide +kernel
  have refused (nameOf : Source.Path → String)
      : draft.declare nameOf = .error (.invalidName .collection "events" .reserved) := rfl
  obtain ⟨written, spelled, succeeds, _⟩ :=
    declare_of_expand Source.Path.lastName parsed expanded
  refine ⟨parsed, expanded, refused, written, spelled, fun declarable => ?_⟩
  obtain ⟨type, declared⟩ := succeeds.mpr declarable
  nomatch (refused Source.Path.lastName).symm.trans declared

end WrittenStruct

end Catalog.Annotated
