import Catalog.Annotated.Expansion
import Catalog.Proofs.Annotated.Entries
import Mathlib.Data.List.Perm.Basic

/-! The order of the entries of attributes.
What an attribute says about a key is decided by the last entry with that key, wherever it stands.
So entries with distinct keys can be written in any order. A collection attribute is refused only
for having both days of history and none, and it declares a collection unless it has entries and
none of them concerns the collection.
-/

namespace Catalog.Annotated

open Outcome
open Source (Token Word)

-----------------------------------------------------------------------------------------
-- The last setting with a key
-----------------------------------------------------------------------------------------

section LastWith

variable {β γ : Type} {key : β → String} {name : String} {select : β → Option γ}
  {settings others : List β} {setting : β}

/-- The last setting with a key. -/
def lastWith (key : β → String) (name : String) (settings : List β) : Option β :=
  settings.reverse.find? (key · = name)

/-- A last setting with a key is one of the settings, and has the key. -/
theorem mem_of_lastWith (found : lastWith key name settings = some setting)
    : setting ∈ settings ∧ key setting = name := by
  unfold lastWith at found
  have named := List.find?_some found
  exact ⟨List.mem_reverse.mp (List.mem_of_find?_eq_some found), of_decide_eq_true named⟩

theorem isSome_lastWith : (lastWith key name settings).isSome ↔ name ∈ settings.map key := by
  rw [lastWith, List.find?_isSome, List.mem_map]
  simp only [List.mem_reverse, decide_eq_true_eq]

/-- If no key is repeated, the last setting with a key is the only one. -/
theorem lastWith_eq_some_iff (distinct : (settings.map key).Nodup)
    : lastWith key name settings = some setting ↔ setting ∈ settings ∧ key setting = name := by
  refine ⟨mem_of_lastWith, ?_⟩
  rintro ⟨member, rfl⟩
  obtain ⟨last, found⟩ := Option.isSome_iff_exists.mp
    (isSome_lastWith.mpr (List.mem_map_of_mem member))
  obtain ⟨present, same⟩ := mem_of_lastWith found
  rw [found, List.inj_on_of_nodup_map distinct present member same]

/-- If no key is repeated, the order of the settings does not matter to the last ones. -/
theorem lastWith_perm (distinct : (settings.map key).Nodup) (same : settings.Perm others)
    (name : String)
    : lastWith key name settings = lastWith key name others := by
  have otherDistinct := (same.map key).nodup_iff.mp distinct
  refine Option.ext fun setting => ?_
  rw [lastWith_eq_some_iff distinct, lastWith_eq_some_iff otherDistinct, same.mem_iff]

/-- A setting that is the last one with its key gives the last value of that key. -/
theorem lastGiven_of_lastWith {value : γ} (last : lastWith key name settings = some setting)
    (selected : select setting = some value)
    (keyed : ∀ other ∈ settings, (select other).isSome → key other = name)
    : lastGiven select settings = some value := by
  obtain ⟨_, later, earlier, split, unnamed⟩ := List.find?_eq_some_iff_append.mp last
  have none_later : later.findSome? select = none := by
    refine List.findSome?_eq_none_iff.mpr fun other member => ?_
    have present : other ∈ settings := by
      rw [← List.mem_reverse, split]
      exact List.mem_append_left _ member
    by_contra given
    have named := keyed other present (Option.isSome_iff_ne_none.mpr given)
    exact absurd named (by simpa using unnamed other member)
  rw [lastGiven, split, List.findSome?_append, none_later, List.findSome?_cons, selected]
  rfl

/-- A value is given if a setting gives one. -/
theorem isSome_lastGiven
    : (lastGiven select settings).isSome ↔ ∃ setting ∈ settings, (select setting).isSome := by
  rw [lastGiven, List.findSome?_isSome_iff]
  simp only [List.mem_reverse]

/-- If the settings with a key are those that give its value, the last of them gives it. -/
theorem lastGiven_eq_bind
    (keyed : ∀ setting ∈ settings, (select setting).isSome ↔ key setting = name)
    : lastGiven select settings = (lastWith key name settings).bind select := by
  cases last : lastWith key name settings with
  | none =>
      refine List.findSome?_eq_none_iff.mpr fun other member => ?_
      have present := List.mem_reverse.mp member
      by_contra given
      have named := (keyed other present).mp (Option.isSome_iff_ne_none.mpr given)
      have found := isSome_lastWith.mpr (List.mem_map.mpr ⟨other, present, named⟩)
      rw [last] at found
      nomatch found
  | some setting =>
      obtain ⟨member, named⟩ := mem_of_lastWith last
      obtain ⟨value, selected⟩ := Option.isSome_iff_exists.mp ((keyed setting member).mpr named)
      rw [Option.bind_some, selected]
      exact lastGiven_of_lastWith last selected fun other present => (keyed other present).mp

/-- The value of a key is decided by the last setting with that key. -/
theorem lastGiven_congr {sound : β → Prop} (name : String)
    (settingsSound : ∀ setting ∈ settings, sound setting)
    (othersSound : ∀ setting ∈ others, sound setting)
    (same : ∀ name, lastWith key name settings = lastWith key name others)
    (keyed : ∀ setting, sound setting → ((select setting).isSome ↔ key setting = name))
    : lastGiven select settings = lastGiven select others := by
  rw [lastGiven_eq_bind fun setting member => keyed setting (settingsSound setting member),
    lastGiven_eq_bind fun setting member => keyed setting (othersSound setting member), same]

/-- The last settings decide which keys there are. -/
theorem mem_keys_congr (same : ∀ name, lastWith key name settings = lastWith key name others)
    : name ∈ settings.map key ↔ name ∈ others.map key := by
  rw [← isSome_lastWith, same, isSome_lastWith]

theorem eq_nil_congr (same : ∀ name, lastWith key name settings = lastWith key name others)
    : settings = [] ↔ others = [] := by
  rw [← List.map_eq_nil_iff (f := key), ← List.map_eq_nil_iff (f := key),
    List.eq_nil_iff_forall_not_mem, List.eq_nil_iff_forall_not_mem]
  simp only [mem_keys_congr same]

end LastWith

-----------------------------------------------------------------------------------------
-- The attribute of a collection
-----------------------------------------------------------------------------------------

namespace CollectionAttribute

variable {settings others : List CollectionSetting}

/-- The attribute says what a setting says. -/
def Holds (given : CollectionAttribute) : CollectionSetting → Prop
  | .name text => given.name? = some text
  | .ttlDays days => given.ttlDays? = some days
  | .historyDays days => given.historyDays? = some days
  | .noHistory => given.noHistory = true
  | .data text => given.data? = some text
  | .permissions text => given.permissions? = some text
  | .base path => given.base? = some path
  | .renameAll rule =>
    ∃ known, RenameRule.ofName? rule = some known ∧ given.renameRule? = some known

/-- What settings say together holds what the last setting with a key says. -/
theorem summary_holds {setting : CollectionSetting} (sound : setting.Sound)
    (last : lastWith CollectionSetting.key setting.key settings = some setting)
    : (summary settings).Holds setting := by
  cases setting with
  | noHistory => exact List.any_eq_true.mpr ⟨.noHistory, (mem_of_lastWith last).1, rfl⟩
  | renameAll rule =>
      obtain ⟨known, found⟩ := Option.isSome_iff_exists.mp sound
      refine ⟨known, found, lastGiven_of_lastWith last found fun other _ given => ?_⟩
      cases other <;> first | rfl | nomatch given
  | _ =>
      refine lastGiven_of_lastWith last rfl fun other _ given => ?_
      cases other <;> first | rfl | nomatch given

/-- Sound settings make an attribute unless they give days of history and refuse them as well. -/
theorem ofSettings_of_sound (sound : ∀ setting ∈ settings, setting.Sound)
    : ofSettings settings =
      if (summary settings).noHistory ∧ (summary settings).historyDays?.isSome then
        .error .historyConflict
      else .ok (summary settings) := by
  have added := (foldlM_eq_ok add_eq_ok).mpr ⟨sound, foldl_put settings⟩
  rw [ofSettings, added, ok_bind]
  rfl

/-- Settings refuse history exactly if one of them has that key. -/
theorem noHistory_summary_iff
    : (summary settings).noHistory = true ↔ "no_history" ∈ settings.map CollectionSetting.key := by
  rw [List.mem_map, summary, List.any_eq_true]
  refine exists_congr fun setting => and_congr_right fun _ => ?_
  cases setting <;> simp [CollectionSetting.key]

/-- Settings give days of history exactly if one of them has that key. -/
theorem historyDays?_summary_iff
    : (summary settings).historyDays?.isSome
      ↔ "history_days" ∈ settings.map CollectionSetting.key := by
  rw [List.mem_map, summary, isSome_lastGiven]
  refine exists_congr fun setting => and_congr_right fun _ => ?_
  cases setting <;> simp [CollectionSetting.key]

/-- Settings declare a collection exactly if there are none or one of them has a key that concerns
the collection.
-/
theorem declared_summary_iff
    : (summary settings).declared = true
      ↔ settings = []
        ∨ ∃ key ∈ settings.map CollectionSetting.key, key ≠ "extends" ∧ key ≠ "rename_all" := by
  have concerns (setting : CollectionSetting)
      : setting.declares = true ↔ setting.key ≠ "extends" ∧ setting.key ≠ "rename_all" := by
    cases setting <;> simp [CollectionSetting.declares, CollectionSetting.key]
  rw [summary, Bool.or_eq_true, List.any_eq_true, List.isEmpty_iff, or_comm]
  simp only [concerns, List.mem_map, exists_exists_and_eq_and]

/-- What sound settings say together is decided by the last setting with each key, part by part. -/
theorem summary_congr (sound : ∀ setting ∈ settings, setting.Sound)
    (otherSound : ∀ setting ∈ others, setting.Sound)
    (same : ∀ name, lastWith CollectionSetting.key name settings
      = lastWith CollectionSetting.key name others)
    : summary settings = summary others := by
  have decided {γ : Type} {select : CollectionSetting → Option γ} (name : String)
      (keyed : ∀ setting : CollectionSetting, setting.Sound
        → ((select setting).isSome ↔ setting.key = name))
      : lastGiven select settings = lastGiven select others :=
    lastGiven_congr name sound otherSound same keyed
  apply CollectionAttribute.ext
  case declared =>
    rw [Bool.eq_iff_iff, declared_summary_iff, declared_summary_iff, eq_nil_congr same]
    simp only [mem_keys_congr same]
  case noHistory =>
    rw [Bool.eq_iff_iff, noHistory_summary_iff, noHistory_summary_iff, mem_keys_congr same]
  case name? =>
    refine decided "name" fun setting _ => ?_
    cases setting <;> simp [CollectionSetting.key]
  case ttlDays? =>
    refine decided "ttl_days" fun setting _ => ?_
    cases setting <;> simp [CollectionSetting.key]
  case historyDays? =>
    refine decided "history_days" fun setting _ => ?_
    cases setting <;> simp [CollectionSetting.key]
  case data? =>
    refine decided "data" fun setting _ => ?_
    cases setting <;> simp [CollectionSetting.key]
  case permissions? =>
    refine decided "permissions" fun setting _ => ?_
    cases setting <;> simp [CollectionSetting.key]
  case base? =>
    refine decided "extends" fun setting _ => ?_
    cases setting <;> simp [CollectionSetting.key]
  case renameRule? =>
    refine decided "rename_all" fun setting sound => ?_
    cases setting with
    | renameAll rule => exact iff_of_true sound rfl
    | _ => simp [CollectionSetting.key]

end CollectionAttribute

/-- The collection of a draft is what the collection attribute says, if that declares one. -/
theorem collection?_of_expand {item : Source.Item} {draft : Draft}
    (expanded : expand item = .ok draft)
    : ∃ given, readCollection (Source.attributesNamed "collection" item.attributes) = .ok given
        ∧ draft.collection? = if given.declared then some given else none := by
  unfold expand at expanded
  split at expanded
  case isTrue => nomatch expanded
  case isFalse =>
    obtain ⟨given, read, expanded⟩ := bind_eq_ok.mp expanded
    obtain ⟨_, _, expanded⟩ := bind_eq_ok.mp expanded
    obtain ⟨_, _, expanded⟩ := bind_eq_ok.mp expanded
    cases expanded
    exact ⟨given, read, rfl⟩

-----------------------------------------------------------------------------------------
-- The attribute of an index
-----------------------------------------------------------------------------------------

namespace IndexAttribute

variable {settings others : List IndexSetting}

/-- The attribute says what a setting says. -/
def Holds (given : IndexAttribute) : IndexSetting → Prop
  | .name text => given.name? = some text
  | .terms elements => given.terms = elements
  | .values elements => given.values = elements
  | .unique value => given.unique = value
  | .serialized value => given.serialized? = some value
  | .data text => given.data? = some text
  | .permissions text => given.permissions? = some text

/-- What settings say together holds what the last setting with a key says. -/
theorem summary_holds {setting : IndexSetting}
    (last : lastWith IndexSetting.key setting.key settings = some setting)
    : (summary settings).Holds setting := by
  cases setting with
  | terms | values | unique =>
      refine Option.getD_eq_iff.mpr (.inl (lastGiven_of_lastWith last rfl fun other _ given => ?_))
      cases other <;> first | rfl | nomatch given
  | _ =>
      refine lastGiven_of_lastWith last rfl fun other _ given => ?_
      cases other <;> first | rfl | nomatch given

/-- What settings say together is decided by the last setting with each key, part by part. -/
theorem summary_congr
    (same : ∀ name, lastWith IndexSetting.key name settings
      = lastWith IndexSetting.key name others)
    : summary settings = summary others := by
  have decided {γ : Type} {select : IndexSetting → Option γ} (name : String)
      (keyed : ∀ setting : IndexSetting, (select setting).isSome ↔ setting.key = name)
      : lastGiven select settings = lastGiven select others :=
    lastGiven_congr name (fun _ _ => trivial) (fun _ _ => trivial) same
      fun setting _ => keyed setting
  apply IndexAttribute.ext
  case name? =>
    refine decided "name" fun setting => ?_
    cases setting <;> simp [IndexSetting.key]
  case terms =>
    refine congrArg (Option.getD · _) (decided "terms" fun setting => ?_)
    cases setting <;> simp [IndexSetting.key]
  case values =>
    refine congrArg (Option.getD · _) (decided "values" fun setting => ?_)
    cases setting <;> simp [IndexSetting.key]
  case unique =>
    refine congrArg (Option.getD · _) (decided "unique" fun setting => ?_)
    cases setting <;> simp [IndexSetting.key]
  case serialized? =>
    refine decided "serialized" fun setting => ?_
    cases setting <;> simp [IndexSetting.key]
  case data? =>
    refine decided "data" fun setting => ?_
    cases setting <;> simp [IndexSetting.key]
  case permissions? =>
    refine decided "permissions" fun setting => ?_
    cases setting <;> simp [IndexSetting.key]

/-- Sound settings make an attribute. -/
theorem ofSettings_of_sound (sound : ∀ setting ∈ settings, setting.Sound)
    : ofSettings settings = .ok (summary settings) :=
  ofSettings_eq_ok.mpr ⟨sound, rfl⟩

end IndexAttribute

-----------------------------------------------------------------------------------------
-- Attributes of entries
-----------------------------------------------------------------------------------------

/-- What attributes of some kind say is decided by the last entry with each key and not by the
order of the entries. So entries with distinct keys are read alike in any order.
-/
structure DecidedByKeys {α β : Type} (spelled : Spelling β) (sound : β → Prop) (key : β → String)
    (read : List Token → Except Fault α) (holds : α → β → Prop) : Prop where
  permuted {entries others : List (List Token)} {settings : List β}
    {tokens otherTokens : List Token}
    (each : List.Forall₂ (EntryOf spelled sound) entries settings)
    (distinct : (settings.map key).Nodup) (same : entries.Perm others)
    (written : AttributeOf entries tokens) (otherWritten : AttributeOf others otherTokens)
    : read tokens = read otherTokens
  decided {entries others : List (List Token)} {settings otherSettings : List β}
    {tokens otherTokens : List Token}
    (each : List.Forall₂ (EntryOf spelled sound) entries settings)
    (otherEach : List.Forall₂ (EntryOf spelled sound) others otherSettings)
    (same : ∀ name, lastWith key name settings = lastWith key name otherSettings)
    (written : AttributeOf entries tokens) (otherWritten : AttributeOf others otherTokens)
    : read tokens = read otherTokens
  last {entries : List (List Token)} {settings : List β} {setting : β} {tokens : List Token}
    {given : α}
    (each : List.Forall₂ (EntryOf spelled sound) entries settings)
    (last : lastWith key (key setting) settings = some setting)
    (written : AttributeOf entries tokens) (made : read tokens = .ok given)
    : holds given setting

/-- The settings of entries are sound, by induction on the entries. -/
theorem sound_of_entries {β : Type} {spelled : Spelling β} {sound : β → Prop}
    {entries : List (List Token)} {settings : List β}
    (each : List.Forall₂ (EntryOf spelled sound) entries settings)
    : ∀ setting ∈ settings, sound setting := by
  induction each with
  | nil => nofun
  | cons first _ ih => exact List.forall_mem_cons.mpr ⟨first.sound, ih⟩

/-- Collection attributes whose last settings with each key are the same are read alike. -/
theorem CollectionAttribute.read_congr {entries others : List (List Token)}
    {settings otherSettings : List CollectionSetting} {tokens otherTokens : List Token}
    (each : List.Forall₂ (EntryOf CollectionSetting.Spelled CollectionSetting.Sound)
      entries settings)
    (otherEach : List.Forall₂ (EntryOf CollectionSetting.Spelled CollectionSetting.Sound)
      others otherSettings)
    (same : ∀ name, lastWith CollectionSetting.key name settings
      = lastWith CollectionSetting.key name otherSettings)
    (written : AttributeOf entries tokens) (otherWritten : AttributeOf others otherTokens)
    : CollectionAttribute.read tokens = CollectionAttribute.read otherTokens := by
  have sound := sound_of_entries each
  have otherSound := sound_of_entries otherEach
  rw [read_of_entries written each, read_of_entries otherWritten otherEach,
    ofSettings_of_sound sound, ofSettings_of_sound otherSound, summary_congr sound otherSound same]

/-- Index attributes whose last settings with each key are the same are read alike. -/
theorem IndexAttribute.read_congr {entries others : List (List Token)}
    {settings otherSettings : List IndexSetting} {tokens otherTokens : List Token}
    (each : List.Forall₂ (EntryOf IndexSetting.Spelled IndexSetting.Sound) entries settings)
    (otherEach : List.Forall₂ (EntryOf IndexSetting.Spelled IndexSetting.Sound)
      others otherSettings)
    (same : ∀ name, lastWith IndexSetting.key name settings
      = lastWith IndexSetting.key name otherSettings)
    (written : AttributeOf entries tokens) (otherWritten : AttributeOf others otherTokens)
    : IndexAttribute.read tokens = IndexAttribute.read otherTokens := by
  rw [read_of_entries written each, read_of_entries otherWritten otherEach,
    ofSettings_of_sound (sound_of_entries each), ofSettings_of_sound (sound_of_entries otherEach),
    summary_congr same]

theorem CollectionAttribute.decidedByKeys
    : DecidedByKeys CollectionSetting.Spelled CollectionSetting.Sound CollectionSetting.key
        CollectionAttribute.read CollectionAttribute.Holds where
  permuted each distinct same written otherWritten := by
    obtain ⟨others, otherEach, otherSame⟩ := List.perm_comp_forall₂ same.symm each
    exact read_congr each otherEach (lastWith_perm distinct otherSame.symm) written otherWritten
  decided := read_congr
  last each last written made := by
    have sound := sound_of_entries each _ (mem_of_lastWith last).1
    rw [read_of_entries written each] at made
    obtain ⟨_, _, rfl⟩ := ofSettings_eq_ok.mp made
    exact summary_holds sound last

theorem IndexAttribute.decidedByKeys
    : DecidedByKeys IndexSetting.Spelled IndexSetting.Sound IndexSetting.key
        IndexAttribute.read IndexAttribute.Holds where
  permuted each distinct same written otherWritten := by
    obtain ⟨others, otherEach, otherSame⟩ := List.perm_comp_forall₂ same.symm each
    exact read_congr each otherEach (lastWith_perm distinct otherSame.symm) written otherWritten
  decided := read_congr
  last each last written made := by
    rw [read_of_entries written each] at made
    obtain ⟨_, rfl⟩ := ofSettings_eq_ok.mp made
    exact summary_holds last

/-- A collection attribute of sound entries is refused exactly if they give days of history and
refuse them as well.
-/
theorem CollectionAttribute.refused_iff {entries : List (List Token)} {tokens : List Token}
    {settings : List CollectionSetting} (written : AttributeOf entries tokens)
    (each : List.Forall₂ (EntryOf CollectionSetting.Spelled CollectionSetting.Sound)
      entries settings)
    : (∃ fault, CollectionAttribute.read tokens = .error fault)
      ↔ "history_days" ∈ settings.map CollectionSetting.key
        ∧ "no_history" ∈ settings.map CollectionSetting.key := by
  rw [read_of_entries written each, ofSettings_of_sound (sound_of_entries each),
    ← historyDays?_summary_iff, ← noHistory_summary_iff]
  split
  case isTrue conflict => exact ⟨fun _ => conflict.symm, fun _ => ⟨.historyConflict, rfl⟩⟩
  case isFalse agree => exact ⟨nofun, fun conflict => absurd conflict.symm agree⟩

/-- The order of the entries of attributes does not matter beyond which entry with a key is the
last one. An index attribute of sound entries is accepted. A collection attribute of such entries
is refused exactly if it has both days of history and none; it refuses history if any entry does;
and it declares a collection exactly if it has no entries or one that does not only concern the
type.
-/
theorem attributes_decided_by_keys
    : DecidedByKeys CollectionSetting.Spelled CollectionSetting.Sound CollectionSetting.key
        CollectionAttribute.read CollectionAttribute.Holds
      ∧ DecidedByKeys IndexSetting.Spelled IndexSetting.Sound IndexSetting.key
        IndexAttribute.read IndexAttribute.Holds
      ∧ (∀ entries settings tokens,
        List.Forall₂ (EntryOf IndexSetting.Spelled IndexSetting.Sound) entries settings
        → AttributeOf entries tokens
        → ∃ given, IndexAttribute.read tokens = .ok given)
      ∧ ∀ entries settings tokens,
        List.Forall₂ (EntryOf CollectionSetting.Spelled CollectionSetting.Sound) entries settings
        → AttributeOf entries tokens
        → let keys := settings.map CollectionSetting.key
          ((∃ fault, CollectionAttribute.read tokens = .error fault)
            ↔ "history_days" ∈ keys ∧ "no_history" ∈ keys)
          ∧ ∀ given, CollectionAttribute.read tokens = .ok given
            → (given.noHistory = true ↔ "no_history" ∈ keys)
              ∧ (given.declared = true
                ↔ entries = [] ∨ ∃ key ∈ keys, key ≠ "extends" ∧ key ≠ "rename_all")
              ∧ ∀ item draft name?,
                Source.attributesNamed "collection" item.attributes = [⟨name?, tokens⟩]
                → expand item = .ok draft
                → draft.collection? = if given.declared then some given else none := by
  refine ⟨CollectionAttribute.decidedByKeys, IndexAttribute.decidedByKeys, ?_, ?_⟩
  · intro entries settings tokens each written
    rw [IndexAttribute.read_of_entries written each]
    exact ⟨_, IndexAttribute.ofSettings_of_sound (sound_of_entries each)⟩
  · intro entries settings tokens each written
    refine ⟨CollectionAttribute.refused_iff written each, fun given made => ?_⟩
    have read := CollectionAttribute.read_of_entries written each
    obtain ⟨_, _, rfl⟩ := CollectionAttribute.ofSettings_eq_ok.mp (read.symm.trans made)
    have empty : entries = [] ↔ settings = [] := by
      rw [← List.length_eq_zero_iff, ← List.length_eq_zero_iff, each.length_eq]
    refine ⟨CollectionAttribute.noHistory_summary_iff, ?_, ?_⟩
    · rw [empty, CollectionAttribute.declared_summary_iff]
    · intro item draft name? only expanded
      obtain ⟨other, otherMade, declared⟩ := collection?_of_expand expanded
      rw [only, readCollection, made] at otherMade
      cases otherMade
      exact declared

/-- A path with a comma between its arguments and the refusal of history make the same attribute
in both orders, and of a flag that an index repeats the last value counts.
-/
theorem attributes_decided_by_keys_pair
    : let path : List Token := [.word ⟨"Pair", false⟩, .mark '<' false, .word ⟨"A", false⟩,
        .mark ',' false, .word ⟨"B", false⟩, .mark '>' false]
      let parent : List Token := .word ⟨"extends", false⟩ :: .mark '=' false :: path
      let refusal : List Token := [.word ⟨"no_history", false⟩]
      let flag : List Token := [.word ⟨"unique", false⟩]
      let unset : List Token :=
        [.word ⟨"unique", false⟩, .mark '=' false, .word ⟨"false", false⟩]
      (∃ given,
        CollectionAttribute.read
            (.opening .round :: (parent ++ .mark ',' false :: refusal) ++ [.closing .round])
          = .ok given
        ∧ CollectionAttribute.read
            (.opening .round :: (refusal ++ .mark ',' false :: (parent ++ [.mark ',' false]))
              ++ [.closing .round])
          = .ok given
        ∧ given.base? = some ⟨path⟩ ∧ given.noHistory = true ∧ given.declared = true)
      ∧ ∃ given,
        IndexAttribute.read
            (.opening .round :: (flag ++ .mark ',' false :: unset) ++ [.closing .round])
          = .ok given
        ∧ given.unique = false := by
  intro path parent refusal flag unset
  obtain ⟨collection, index, accepted, outcome⟩ := attributes_decided_by_keys
  constructor
  · have arguments : Source.ArgumentsSpelled path.tail [] :=
      .opened false rfl (by decide +kernel)
    have segments : Source.SegmentsSpelled path [] := .last rfl (.inr ⟨.inl rfl, arguments⟩)
    have parentSpelled : CollectionSetting.Spelled (.base ⟨path⟩) parent [] :=
      ⟨_, rfl, false, rfl, path, segments, .inl rfl⟩
    have refusalSpelled : CollectionSetting.Spelled .noHistory refusal [] := ⟨[], rfl, rfl⟩
    have each : List.Forall₂ (EntryOf CollectionSetting.Spelled CollectionSetting.Sound)
        [parent, refusal] [.base ⟨path⟩, .noHistory] :=
      .cons ⟨parentSpelled, rfl, trivial⟩ (.cons ⟨refusalSpelled, rfl, trivial⟩ .nil)
    have written := AttributeOf.enclosed (.more parent false (.last refusal))
    have otherWritten := AttributeOf.enclosed (.more refusal false (.more parent false .none))
    have same := collection.permuted each (by decide) (.swap refusal parent []) written otherWritten
    obtain ⟨refused, meaning⟩ := outcome _ _ _ each written
    cases made : CollectionAttribute.read _ with
    | error fault => exact absurd (refused.mp ⟨fault, made⟩) (by decide)
    | ok given =>
        obtain ⟨noHistory, declared, _⟩ := meaning given made
        have base : given.Holds (.base ⟨path⟩) := collection.last each rfl written made
        exact ⟨given, rfl, same.symm.trans made, base, noHistory.mpr (by decide),
          declared.mpr (.inr ⟨"no_history", by decide, by decide⟩)⟩
  · have flagSpelled : IndexSetting.Spelled (.unique true) flag [] :=
      ⟨[], rfl, .inl ⟨rfl, rfl⟩⟩
    have unsetSpelled : IndexSetting.Spelled (.unique false) unset [] :=
      ⟨_, rfl, .inr ⟨false, rfl⟩⟩
    have each : List.Forall₂ (EntryOf IndexSetting.Spelled IndexSetting.Sound)
        [flag, unset] [.unique true, .unique false] :=
      .cons ⟨flagSpelled, rfl, trivial⟩ (.cons ⟨unsetSpelled, rfl, trivial⟩ .nil)
    have written := AttributeOf.enclosed (.more flag false (.last unset))
    obtain ⟨given, made⟩ := accepted _ _ _ each written
    have unique : given.Holds (.unique false) := index.last each rfl written made
    exact ⟨given, made, unique⟩

end Catalog.Annotated
