import Catalog.Proofs.Annotated.Declarations
import Catalog.Proofs.Annotated.IndexWords
import Catalog.Proofs.Manifest.EntryDeclaration

/-! Annotated indexes as entries of a manifest.
Words are written as the texts that mean the same in a manifest. An attribute is then declared
exactly as its entry is, if its index refers to declared members.
-/

namespace Catalog.Annotated

open Outcome
open Manifest (DataEntry flatItem_of_head? indexEntry_eq_ok)
open Source (Word)

/-- The text that a manifest has for a word: markers have texts of their own, and all other words
stand for themselves.
-/
def elementText (word : Word) : String :=
  if word.raw then word.name
  else match word.name with
  | "Ref" => "@ref"
  | "Ts" => "@ts"
  | "Reverse" => "@reverse"
  | "Default" => "@default"
  | name => name

/-- The entry that says what an index attribute says. -/
def IndexAttribute.toEntry (given : IndexAttribute) : Manifest.IndexEntry where
  name? := given.name?
  terms := given.terms.map elementText
  values := given.values.map elementText
  unique := given.unique
  serialized := given.serialized?.getD true
  data? := given.data?.map .text
  permissions? := given.permissions?.map .text

-----------------------------------------------------------------------------------------
-- Elements
-----------------------------------------------------------------------------------------

/-- The text of a word means in a manifest what the word means. -/
theorem flatItem_elementText {word : Word} (wellFormed : word.WellFormed)
    : Manifest.flatItem (elementText word) = .ok (meaning word) := by
  have head : word.name.toList.head? ≠ some '@' := wellFormed.head?_ne (by decide)
  rw [elementText, meaning]
  by_cases raw : word.raw = true
  · rw [marker?, if_pos raw, if_pos raw]
    exact flatItem_of_head? head
  · rw [if_neg raw]
    split
    case h_5 name not_ref not_ts not_reverse not_default =>
      have unmarked : marker? word = none :=
        Option.not_isSome_iff_eq_none.mp fun marked => by
          have named := (marker?_isSome.mp marked).2
          simp only [markerNames, List.mem_cons, List.not_mem_nil, or_false] at named
          rcases named with named | named | named | named <;> contradiction
      rw [unmarked]
      exact flatItem_of_head? head
    all_goals
      rename_i named
      rw [marker?, if_neg raw, named]
      rfl

section Words

variable {members : List String} {words : List Word}
  (wellFormed : ∀ word ∈ words, word.WellFormed)
  (unambiguous : ∀ word ∈ words, Unambiguous members word)

include wellFormed unambiguous

/-- Words are resolved exactly if their texts mean items that refer to declared members only. -/
theorem mapM_resolve_eq_ok {items : List FlatItem}
    : words.mapM (resolve members) = .ok items
      ↔ (words.map elementText).mapM Manifest.flatItem = .ok items
        ∧ ∀ item ∈ items, ∀ member ∈ item.member?, member ∈ members := by
  rw [List.mapM_map]
  refine mapM_restrict fun word listed item => ?_
  rw [resolve_eq_ok, Function.comp_apply, flatItem_elementText (wellFormed word listed),
    Except.ok.injEq]
  exact and_iff_right (unambiguous word listed)

/-- Terms are resolved exactly if their texts mean elements that refer to declared members only.
-/
theorem mapM_resolveTerm_eq_ok {terms : List Element}
    : words.mapM (resolveTerm members) = .ok terms
      ↔ (words.map elementText).mapM Manifest.term = .ok terms
        ∧ ∀ element ∈ terms, ∀ member ∈ element.member?, member ∈ members := by
  rw [List.mapM_map]
  refine mapM_restrict fun word listed element => ?_
  have meant : Manifest.term (elementText word) = .ok element
      ↔ meaning word = .element element := by
    rw [Manifest.term_eq_ok, flatItem_elementText (wellFormed word listed), Except.ok.injEq]
  rw [resolveTerm_eq_ok, resolve_eq_ok, Function.comp_apply, meant]
  exact and_iff_right (unambiguous word listed)

end Words

-----------------------------------------------------------------------------------------
-- Indexes
-----------------------------------------------------------------------------------------

/-- Texts are parsed as data entries as they are on their own. -/
theorem mapM_toObject (property : String) (text? : Option String)
    : (text?.map DataEntry.text).mapM (DataEntry.toObject property)
      = text?.mapM (JsonObject.parse property) := by
  cases text? <;> rfl

/-- Texts that are parsed hold objects. -/
theorem holdsObject_of_mapM_parse {property : String} {text? : Option String}
    {object? : Option JsonObject} (parsed : text?.mapM (JsonObject.parse property) = .ok object?)
    : ∀ text ∈ text?, HoldsObject text := by
  cases text? with
  | none => exact nofun
  | some text =>
      obtain ⟨entries, made, _⟩ := option_mapM_some_eq_ok.mp parsed
      rintro _ ⟨⟩
      exact ⟨entries, parse_eq_ok.mp made⟩

namespace IndexAttribute

variable {settings : List IndexSetting}

/-- Settings with distinct keys are sound if the texts among what they say are parsed. -/
theorem sound_of_parsed (distinct : (settings.map IndexSetting.key).Nodup)
    (data : ∀ text ∈ (summary settings).data?, HoldsObject text)
    (permissions : ∀ text ∈ (summary settings).permissions?, HoldsObject text)
    : ∀ setting ∈ settings, setting.Sound := by
  intro setting member
  cases setting with
  | data text =>
      refine data text (lastGiven_of_mem distinct member rfl fun other given => ?_)
      cases other <;> first | rfl | nomatch given
  | permissions text =>
      refine permissions text (lastGiven_of_mem distinct member rfl fun other given => ?_)
      cases other <;> first | rfl | nomatch given
  | _ => trivial

/-- What holds for the words of all settings holds for the terms and values among what they say.
-/
theorem words_of_summary {holds : Word → Prop}
    (all : ∀ setting ∈ settings, ∀ word ∈ setting.words, holds word)
    : (∀ word ∈ (summary settings).terms, holds word)
      ∧ ∀ word ∈ (summary settings).values, holds word := by
  have given {select : IndexSetting → Option (List Word)}
      (words : ∀ setting elements, select setting = some elements → setting.words = elements)
      : ∀ word ∈ (lastGiven select settings).getD [], holds word := by
    cases found : lastGiven select settings with
    | none => exact nofun
    | some elements =>
        obtain ⟨setting, member, selected⟩ := mem_of_lastGiven found
        exact words setting elements selected ▸ all setting member
  constructor
  · refine given fun setting elements selected => ?_
    cases setting <;> first | exact Option.some.inj selected | nomatch selected
  · refine given fun setting elements selected => ?_
    cases setting <;> first | exact Option.some.inj selected | nomatch selected

end IndexAttribute

/-- An index refers to declared members exactly if its terms and the items of its values do. -/
theorem members_declared_iff {members : List String} {index : IndexDeclaration}
    {items : List FlatItem} (read : SortedElement.ofFlat items = .ok index.values)
    : (∀ member ∈ index.members, member ∈ members)
      ↔ (∀ element ∈ index.terms, ∀ member ∈ element.member?, member ∈ members)
        ∧ ∀ item ∈ items, ∀ member ∈ item.member?, member ∈ members := by
  rw [IndexDeclaration.members, IndexDeclaration.elements, SortedElement.elements_ofFlat read,
    List.filterMap_append, List.filterMap_filterMap, List.forall_mem_append]
  simp only [List.mem_filterMap, forall_exists_index, and_imp, Option.mem_def, FlatItem.member?]
  -- The member and the element that refers to it are quantified in the other order on each side.
  exact and_congr
    ⟨fun declared element listed member refers => declared member element listed refers,
      fun declared member element listed refers => declared element listed member refers⟩
    ⟨fun declared item listed member refers => declared member item listed refers,
      fun declared member item listed refers => declared item listed member refers⟩

/-- Settings with distinct keys and unambiguous words are drafted and then declared exactly as
their entry is, if the index refers to declared members only.
-/
theorem draftIndex_agrees {members : List String} {settings : List IndexSetting}
    (distinct : (settings.map IndexSetting.key).Nodup)
    (wellFormed : ∀ setting ∈ settings, ∀ word ∈ setting.words, word.WellFormed)
    (unambiguous : ∀ setting ∈ settings, ∀ word ∈ setting.words, Unambiguous members word)
    {index : IndexDeclaration}
    : (∃ draft, draftIndex members settings = .ok draft ∧ draft.toDeclaration = .ok index)
      ↔ (IndexAttribute.summary settings).toEntry.toDeclaration = .ok index
        ∧ ∀ member ∈ index.members, member ∈ members := by
  have words := IndexAttribute.words_of_summary wellFormed
  have apart := IndexAttribute.words_of_summary unambiguous
  rw [indexEntry_eq_ok]
  constructor
  -- Words that are resolved have texts that mean the same items.
  · rintro ⟨draft, drafted, declared⟩
    obtain ⟨given, made, resolved⟩ := bind_eq_ok.mp drafted
    obtain ⟨_, rfl⟩ := IndexAttribute.ofSettings_eq_ok.mp made
    obtain ⟨terms, items, values, termsResolved, itemsResolved, read, rfl⟩ :=
      IndexAttribute.toDraft_eq_ok.mp resolved
    obtain ⟨data?, data, permissions?, permissions, rfl⟩ :=
      IndexDraft.toDeclaration_eq_ok.mp declared
    obtain ⟨termsMeant, termsDeclared⟩ :=
      (mapM_resolveTerm_eq_ok words.1 apart.1).mp termsResolved
    obtain ⟨itemsMeant, itemsDeclared⟩ := (mapM_resolve_eq_ok words.2 apart.2).mp itemsResolved
    refine ⟨⟨terms, termsMeant, items, itemsMeant, values, read,
      data?, (mapM_toObject _ _).trans data,
      permissions?, (mapM_toObject _ _).trans permissions, rfl⟩, ?_⟩
    exact (members_declared_iff read).mpr ⟨termsDeclared, itemsDeclared⟩
  · rintro ⟨⟨terms, termsMeant, items, itemsMeant, values, read, data?, data, permissions?,
      permissions, rfl⟩, declared⟩
    obtain ⟨termsDeclared, itemsDeclared⟩ := (members_declared_iff read).mp declared
    have data := (mapM_toObject _ _).symm.trans data
    have permissions := (mapM_toObject _ _).symm.trans permissions
    -- No text of a setting goes unparsed: with distinct keys all of them count.
    have sound := IndexAttribute.sound_of_parsed distinct (holdsObject_of_mapM_parse data)
      (holdsObject_of_mapM_parse permissions)
    have resolved := IndexAttribute.toDraft_eq_ok.mpr ⟨terms, items, values,
      (mapM_resolveTerm_eq_ok words.1 apart.1).mpr ⟨termsMeant, termsDeclared⟩,
      (mapM_resolve_eq_ok words.2 apart.2).mpr ⟨itemsMeant, itemsDeclared⟩, read, rfl⟩
    have made := IndexAttribute.ofSettings_eq_ok.mpr ⟨sound, rfl⟩
    exact ⟨_, bind_eq_ok.mpr ⟨_, made, resolved⟩, IndexDraft.toDeclaration_eq_ok.mpr
      ⟨data?, data, permissions?, permissions, rfl⟩⟩

end Catalog.Annotated
