import Catalog.Proofs.Annotated.IndexEntry

/-! Annotated structs and manifests agree.
A struct has an entry that says the same in a manifest. The struct is expanded and declared
exactly if its entry is declared and the type is valid, and both declare the same type. They find
faults in different places: expansion knows the members that indexes may refer to, while an entry
is only checked against them when its type is validated.
-/

namespace Catalog.Annotated

open Outcome
open Manifest (DataEntry collectionEntry_eq_ok indexDeclarations_eq_ok typeEntry_eq_ok)
open Source (Word)

/-- The entry that says what a collection attribute says. -/
def CollectionAttribute.toEntry (given : CollectionAttribute) : Manifest.CollectionEntry where
  name? := given.name?
  ttlDays? := given.ttlDays?
  historyDays? := given.historyDays?
  noHistory := given.noHistory
  data? := given.data?.map .text
  permissions? := given.permissions?.map .text

namespace WrittenStruct

/-- The entry that says in a manifest what a struct says: its base is the name of the type that its
path leads to, its fields are those of the members that are not skipped, and it has a collection if
the collection attribute declares one.
-/
def toEntry (written : WrittenStruct) (nameOf : Source.Path → String) : Manifest.TypeEntry where
  name := written.word.name
  base? := written.collection.base?.map nameOf
  fields := written.fields
  collection? := if written.collection.declared then some written.collection.toEntry else none
  indexes := written.indexes.map fun settings => (IndexAttribute.summary settings).toEntry

/-- The attributes of a struct repeat no keys, its rule for names is known, and no word among the
elements of its indexes could be a marker as well as a field.
-/
structure Regular (written : WrittenStruct) : Prop where
  collection_keys : ∀ settings ∈ written.collection?, (settings.map CollectionSetting.key).Nodup
  index_keys : ∀ settings ∈ written.indexes, (settings.map IndexSetting.key).Nodup
  rule_known : ∀ settings ∈ written.collection?, ∀ rule, .renameAll rule ∈ settings
    → (RenameRule.ofName? rule).isSome
  unambiguous : ∀ settings ∈ written.indexes, ∀ setting ∈ settings, ∀ word ∈ setting.words,
    Unambiguous written.declared word

end WrittenStruct

-----------------------------------------------------------------------------------------
-- Collections
-----------------------------------------------------------------------------------------

namespace CollectionAttribute

variable {settings : List CollectionSetting}

/-- Settings with distinct keys and a known rule are sound if the texts among what they say hold
objects.
-/
theorem sound_of_parsed (distinct : (settings.map CollectionSetting.key).Nodup)
    (known : ∀ rule, .renameAll rule ∈ settings → (RenameRule.ofName? rule).isSome)
    (parsed : (summary settings).Sound)
    : ∀ setting ∈ settings, setting.Sound := by
  intro setting member
  cases setting with
  | data text =>
      refine parsed.data text (lastGiven_of_mem distinct member rfl fun other given => ?_)
      cases other <;> first | rfl | nomatch given
  | permissions text =>
      refine parsed.permissions text (lastGiven_of_mem distinct member rfl fun other given => ?_)
      cases other <;> first | rfl | nomatch given
  | renameAll rule => exact known rule member
  | _ => trivial

/-- Settings with a known rule that declare no collection make an attribute: they have nothing
that could be wrong.
-/
theorem ofSettings_of_undeclared
    (known : ∀ rule, .renameAll rule ∈ settings → (RenameRule.ofName? rule).isSome)
    (undeclared : (summary settings).declared ≠ true)
    : ofSettings settings = .ok (summary settings) := by
  have none_declares : ∀ setting ∈ settings, setting.declares = false := by
    intro setting member
    have other := mt (fun any => Bool.or_eq_true_iff.mpr (.inl any)) undeclared
    simpa using mt (fun declares => List.any_eq_true.mpr ⟨setting, member, declares⟩) other
  refine ofSettings_eq_ok.mpr ⟨fun setting member => ?_, fun conflict => ?_, rfl⟩
  · cases setting with
    | renameAll rule => exact known rule member
    | base => trivial
    | _ => nomatch none_declares _ member
  · obtain ⟨setting, member, given⟩ := List.any_eq_true.mp conflict.1
    rw [of_decide_eq_true given] at member
    nomatch none_declares _ member

/-- Settings with distinct keys and a known rule make an attribute that is declared exactly as its
entry is.
-/
theorem ofSettings_agrees (distinct : (settings.map CollectionSetting.key).Nodup)
    (known : ∀ rule, .renameAll rule ∈ settings → (RenameRule.ofName? rule).isSome)
    {typeName : String} {collection : CollectionDeclaration}
    : ofSettings settings = .ok (summary settings)
        ∧ (summary settings).toDeclaration typeName = .ok collection
      ↔ (summary settings).toEntry.toDeclaration typeName = .ok collection := by
  rw [collectionEntry_eq_ok, ofSettings_eq_ok, toDeclaration_eq_ok]
  constructor
  · rintro ⟨⟨_, agree, _⟩, data?, data, permissions?, permissions, rfl⟩
    exact ⟨agree, data?, (mapM_toObject _ _).trans data,
      permissions?, (mapM_toObject _ _).trans permissions, rfl⟩
  · rintro ⟨agree, data?, data, permissions?, permissions, rfl⟩
    have data := (mapM_toObject _ _).symm.trans data
    have permissions := (mapM_toObject _ _).symm.trans permissions
    have sound := sound_of_parsed distinct known
      ⟨holdsObject_of_mapM_parse data, holdsObject_of_mapM_parse permissions⟩
    exact ⟨⟨sound, agree, rfl⟩, data?, data, permissions?, permissions, rfl⟩

end CollectionAttribute

namespace WrittenStruct

variable {written : WrittenStruct}

/-- The collection of a struct is read and then declared exactly as that of its entry is. -/
theorem Regular.collection_agrees (regular : written.Regular) (indexes : List IndexDraft)
    (nameOf : Source.Path → String) {collection? : Option CollectionDeclaration}
    : written.CollectionSound
        ∧ (written.draft indexes).collection?.mapM (·.toDeclaration written.word.name)
          = .ok collection?
      ↔ (written.toEntry nameOf).collection?.mapM
            (Manifest.CollectionEntry.toDeclaration written.word.name)
          = .ok collection? := by
  unfold draft toEntry CollectionSound collection
  cases given : written.collection? with
  | none => simp
  | some settings =>
      have distinct := regular.collection_keys settings given
      have known := regular.rule_known settings given
      simp only [Option.map_some, Option.getD_some, Option.mem_some, forall_eq']
      by_cases declared : (CollectionAttribute.summary settings).declared = true
      · rw [if_pos declared, if_pos declared, option_mapM_some_eq_ok, option_mapM_some_eq_ok]
        simp only [← CollectionAttribute.ofSettings_agrees distinct known]
        constructor
        · rintro ⟨made, collection, declared, rfl⟩
          exact ⟨collection, ⟨made, declared⟩, rfl⟩
        · rintro ⟨collection, ⟨made, declared⟩, rfl⟩
          exact ⟨made, collection, declared, rfl⟩
      · rw [if_neg declared, if_neg declared]
        exact and_iff_right (CollectionAttribute.ofSettings_of_undeclared known declared)

-----------------------------------------------------------------------------------------
-- Types
-----------------------------------------------------------------------------------------

/-- The words that the indexes of a struct list are words of its item. -/
theorem SpelledBy.indexWords_wellFormed {item : Source.Item} (spelled : written.SpelledBy item)
    (wellFormed : item.WellFormed)
    : ∀ settings ∈ written.indexes, ∀ setting ∈ settings, ∀ word ∈ setting.words,
        word.WellFormed := by
  intro settings listed
  obtain ⟨found, present, settingsSpelled⟩ :=
    exists_mem_of_forall₂ spelled.indexes.flip settings listed
  have stands := (List.mem_filter.mp present).1
  exact Annotated.words_wellFormed (wellFormed.of_attribute found stands) settingsSpelled

/-- The indexes of a struct are drafted and then declared exactly as those of its entry are, if
they refer to declared members only.
-/
theorem Regular.indexes_agree (regular : written.Regular) (nameOf : Source.Path → String)
    (wellFormed : ∀ settings ∈ written.indexes, ∀ setting ∈ settings, ∀ word ∈ setting.words,
      word.WellFormed)
    {indexes : List IndexDeclaration}
    : (∃ drafts, written.indexes.mapM (draftIndex written.declared) = .ok drafts
          ∧ drafts.mapM IndexDraft.toDeclaration = .ok indexes)
      ↔ Manifest.indexDeclarations 0 (written.toEntry nameOf).indexes = .ok indexes
        ∧ ∀ index ∈ indexes, ∀ member ∈ index.members, member ∈ written.declared := by
  rw [indexDeclarations_eq_ok, toEntry, List.mapM_map]
  simp only [mapM_eq_ok, forall₂_comp]
  exact forall₂_restrict fun settings listed index =>
    draftIndex_agrees (regular.index_keys settings listed) (wellFormed settings listed)
      (regular.unambiguous settings listed)

/-- A draft is declared exactly if its parts are and the type that they make is valid. -/
theorem declare_eq_ok {draft : Draft} {nameOf : Source.Path → String} {type : TypeDeclaration}
    : draft.declare nameOf = .ok type
      ↔ ∃ fields, FieldMap.ofList draft.fields = .ok fields
        ∧ ∃ collection?,
          draft.collection?.mapM (·.toDeclaration draft.typeName) = .ok collection?
        ∧ ∃ indexes, draft.indexes.mapM IndexDraft.toDeclaration = .ok indexes
        ∧ ⟨draft.typeName, draft.base?.map nameOf, fields, collection?, indexes⟩ = type
        ∧ type.validate = .ok () := by
  simp only [Draft.declare, bind_eq_ok, pure_eq_ok]
  constructor
  · rintro ⟨fields, together, collection?, collection, indexes, made, ⟨⟩, valid, rfl⟩
    exact ⟨fields, together, collection?, collection, indexes, made, rfl, valid⟩
  · rintro ⟨fields, together, collection?, collection, indexes, made, rfl, valid⟩
    exact ⟨fields, together, collection?, collection, indexes, made, (), valid, rfl⟩

/-- A struct is expanded and then declared exactly if its entry is declared and the type is valid,
and both declare the same type, whatever names the types have that paths lead to.
-/
theorem declare_agrees {source : String} {item : Source.Item} {written : WrittenStruct}
    (nameOf : Source.Path → String) (parsed : Source.Item.parse? source = some item)
    (spelled : written.SpelledBy item) (regular : written.Regular) (type : TypeDeclaration)
    : (∃ draft, expand item = .ok draft ∧ draft.declare nameOf = .ok type)
      ↔ (written.toEntry nameOf).toDeclaration = .ok type ∧ type.validate = .ok () := by
  have wellFormed := spelled.indexWords_wellFormed (Source.Item.parse?_wellFormed parsed)
  simp only [expand_eq_ok, declare_eq_ok, typeEntry_eq_ok]
  constructor
  · rintro ⟨_, ⟨same, drafts, sameSpelled, sound, drafted, rfl⟩, fields, together, collection?,
      collection, indexes, made, rfl, valid⟩
    obtain rfl := sameSpelled.unique spelled
    have collection := (regular.collection_agrees drafts nameOf).mp ⟨sound, collection⟩
    obtain ⟨indexes_made, _⟩ := (regular.indexes_agree nameOf wellFormed).mp ⟨drafts, drafted, made⟩
    exact ⟨⟨fields, together, collection?, collection, indexes, indexes_made, rfl⟩, valid⟩
  · rintro ⟨⟨fields, together, collection?, collection, indexes, made, rfl⟩, valid⟩
    -- A valid type declares the members that its indexes refer to, as expansion demands.
    have kept : fields.toList = written.fields := FieldMap.ofList_eq_ok.mp together
    have declared : ∀ index ∈ indexes, ∀ member ∈ index.members, member ∈ written.declared := by
      intro index listed member referred
      obtain ⟨_, _, accepted⟩ := TypeDeclaration.validate_eq_ok.mp valid
      rw [declared, ← kept]
      exact List.mem_map.mpr ((accepted index listed).2 member referred)
    obtain ⟨drafts, drafted, indexes_made⟩ :=
      (regular.indexes_agree nameOf wellFormed).mpr ⟨made, declared⟩
    obtain ⟨sound, collection⟩ := (regular.collection_agrees drafts nameOf).mpr collection
    exact ⟨_, ⟨written, drafts, spelled, sound, drafted, rfl⟩, fields, together, collection?,
      collection, indexes, indexes_made, rfl, valid⟩

/-- The manifest entry of a struct with a base, days, a renamed field, a skipped one and an index in
reverse order of time declares the type that the struct is expanded to.
-/
theorem declare_agrees_person
    : let source := "#[collection(extends = crate::Being, ttl_days = 7, no_history, "
        ++ "rename_all = \"camelCase\")] "
        ++ "#[index(terms = [first_name], values = [Ts, Reverse])] "
        ++ "struct Person \x7b first_name: String, #[field(skip)] cache: u8 \x7d"
      let path : Source.Path := ⟨[.word ⟨"crate", false⟩, .mark ':' true, .mark ':' false,
        .word ⟨"Being", false⟩]⟩
      let item : Source.Item := {
        attributes := [
          { name? := some "collection"
            tokens := .opening .round :: .word ⟨"extends", false⟩ :: .mark '=' false
              :: (path.tokens ++ [.mark ',' false, .word ⟨"ttl_days", false⟩, .mark '=' false,
                .integer 7, .mark ',' false, .word ⟨"no_history", false⟩, .mark ',' false,
                .word ⟨"rename_all", false⟩, .mark '=' false, .text "camelCase",
                .closing .round]) },
          { name? := some "index"
            tokens := [.opening .round, .word ⟨"terms", false⟩, .mark '=' false,
              .opening .square, .word ⟨"first_name", false⟩, .closing .square, .mark ',' false,
              .word ⟨"values", false⟩, .mark '=' false, .opening .square, .word ⟨"Ts", false⟩,
              .mark ',' false, .word ⟨"Reverse", false⟩, .closing .square, .closing .round] }]
        word := ⟨"Person", false⟩
        body := .named [
          { attributes := [], word := ⟨"first_name", false⟩ },
          { attributes := [
              { name? := some "field"
                tokens := [.opening .round, .word ⟨"skip", false⟩, .closing .round] }]
            word := ⟨"cache", false⟩ }] }
      let written : WrittenStruct := {
        word := ⟨"Person", false⟩
        collection? := some [.base path, .ttlDays 7, .noHistory, .renameAll "camelCase"]
        members := [⟨⟨"first_name", false⟩, []⟩, ⟨⟨"cache", false⟩, [.skip]⟩]
        indexes := [[.terms [⟨"first_name", false⟩],
          .values [⟨"Ts", false⟩, ⟨"Reverse", false⟩]]] }
      let nameOf (found : Source.Path) : String := if found = path then "LivingBeing" else ""
      let entry : Manifest.TypeEntry := {
        name := "Person"
        base? := some "LivingBeing"
        fields := [{ member := "first_name", alias? := some "firstName" }]
        collection? := some { ttlDays? := some 7, noHistory := true }
        indexes := [{ terms := ["first_name"], values := ["@ts", "@reverse"] }] }
      Source.Item.parse? source = some item
      ∧ written.SpelledBy item
      ∧ written.Regular
      ∧ written.toEntry nameOf = entry
      ∧ ∃ draft type, expand item = .ok draft ∧ draft.declare nameOf = .ok type
        ∧ entry.toDeclaration = .ok type := by
  intro source path item written nameOf entry
  have parsed : Source.Item.parse? source = some item := by decide +kernel
  have spelled : written.SpelledBy item := read_eq_ok_iff_spelledBy.mp (by decide +kernel)
  have regular : written.Regular := {
    collection_keys := by decide
    index_keys := by decide
    rule_known := by
      rintro _ ⟨⟩ rule member
      obtain rfl : rule = "camelCase" := by simpa using member
      rfl
    unambiguous := by decide +kernel }
  have same : written.toEntry nameOf = entry := by decide +kernel
  obtain ⟨type, declared, valid⟩ : ∃ type, entry.toDeclaration = .ok type
      ∧ type.validate = .ok () :=
    ⟨_, rfl, rfl⟩
  obtain ⟨draft, expanded, made⟩ :=
    (declare_agrees nameOf parsed spelled regular type).mpr ⟨same ▸ declared, valid⟩
  exact ⟨parsed, spelled, regular, same, draft, type, expanded, made, declared⟩

end WrittenStruct

end Catalog.Annotated
