import Catalog.Proofs.Annotated.Spelling
import Catalog.Annotated.Draft

/-! What the attributes of annotated items say.
An attribute is read exactly if it consists of settings each of which is sound, and then it says
what the settings say together. The attribute of a collection must not give days of history and
refuse them as well.
-/

namespace Catalog.Annotated

open Outcome
open Source (Token Word)

-----------------------------------------------------------------------------------------
-- Texts of objects
-----------------------------------------------------------------------------------------

/-- The text is that of a JSON object. -/
def HoldsObject (text : String) : Prop :=
  ∃ entries, Json.parse? text = some (.object entries)

theorem checkObject_eq_ok {text : String} : checkObject text = .ok () ↔ HoldsObject text := by
  unfold checkObject HoldsObject
  cases Json.parse? text with
  | none => simp
  | some value => cases value <;> simp

theorem parse_eq_ok {property text : String} {entries : JsonObject}
    : JsonObject.parse property text = .ok entries
      ↔ Json.parse? text = some (.object entries) := by
  unfold JsonObject.parse
  cases Json.parse? text with
  | none => simp
  | some value => cases value <;> simp

attribute [ext] CollectionAttribute IndexAttribute FieldAttribute

-----------------------------------------------------------------------------------------
-- The attribute of a collection
-----------------------------------------------------------------------------------------

/-- Texts of objects are such, and a rule for names is known. -/
def CollectionSetting.Sound : CollectionSetting → Prop
  | .data text | .permissions text => HoldsObject text
  | .renameAll rule => (RenameRule.ofName? rule).isSome
  | _ => True

/-- Whether a setting declares a collection, and does not only concern the type. -/
def CollectionSetting.declares : CollectionSetting → Bool
  | .base _ | .renameAll _ => false
  | _ => true

namespace CollectionAttribute

variable {given : CollectionAttribute} {settings : List CollectionSetting} {tokens : List Token}

/-- Adds a setting without checking it. -/
def put (given : CollectionAttribute) : CollectionSetting → CollectionAttribute
  | .name text => { given with name? := some text, declared := true }
  | .ttlDays days => { given with ttlDays? := some days, declared := true }
  | .historyDays days => { given with historyDays? := some days, declared := true }
  | .noHistory => { given with noHistory := true, declared := true }
  | .data text => { given with data? := some text, declared := true }
  | .permissions text => { given with permissions? := some text, declared := true }
  | .base path => { given with base? := some path }
  | .renameAll rule =>
    { given with renameRule? := (RenameRule.ofName? rule).or given.renameRule? }

/-- What the settings say together. The last value of a key is the one that counts; without any
setting a collection is declared as well.
-/
def summary (settings : List CollectionSetting) : CollectionAttribute where
  declared := settings.any CollectionSetting.declares || settings.isEmpty
  name? := lastGiven (fun | .name text => some text | _ => none) settings
  ttlDays? := lastGiven (fun | .ttlDays days => some days | _ => none) settings
  historyDays? := lastGiven (fun | .historyDays days => some days | _ => none) settings
  noHistory := settings.any (· = .noHistory)
  data? := lastGiven (fun | .data text => some text | _ => none) settings
  permissions? := lastGiven (fun | .permissions text => some text | _ => none) settings
  base? := lastGiven (fun | .base path => some path | _ => none) settings
  renameRule? := lastGiven (fun | .renameAll rule => RenameRule.ofName? rule | _ => none) settings

theorem add_eq_ok (given : CollectionAttribute) (setting : CollectionSetting)
    (next : CollectionAttribute)
    : given.add setting = .ok next ↔ setting.Sound ∧ given.put setting = next := by
  cases setting with
  | data text | permissions text =>
      simp only [add, check_bind_eq_ok, checkObject_eq_ok, pure_eq_ok, CollectionSetting.Sound, put]
  | renameAll rule =>
      rw [add, put, CollectionSetting.Sound]
      cases RenameRule.ofName? rule <;> simp
  | _ => simp [add, CollectionSetting.Sound, put]

/-- Settings that are put one after another amount to their summary, part by part. -/
theorem foldl_put (settings : List CollectionSetting)
    : settings.foldl put { declared := settings.isEmpty } = summary settings := by
  apply CollectionAttribute.ext
  case declared =>
    refine foldl_any fun given setting => ?_
    cases setting <;> rfl
  case noHistory =>
    refine (foldl_any fun given setting => ?_).trans (Bool.or_false _)
    cases setting <;> rfl
  all_goals
    refine (foldl_lastGiven fun given setting => ?_).trans Option.or_none
    cases setting <;> rfl

theorem check_eq_ok {checked : CollectionAttribute}
    : given.check = .ok checked
      ↔ ¬(given.noHistory ∧ given.historyDays?.isSome) ∧ given = checked := by
  rw [check]
  split
  case isTrue conflict => simp [conflict]
  case isFalse agree => simp [agree]

/-- Settings make an attribute exactly if they are sound and do not contradict each other, and
it says what they say together.
-/
theorem ofSettings_eq_ok
    : ofSettings settings = .ok given
      ↔ (∀ setting ∈ settings, setting.Sound)
        ∧ ¬(given.noHistory ∧ given.historyDays?.isSome)
        ∧ summary settings = given := by
  have added {next : CollectionAttribute}
      : settings.foldlM add { declared := settings.isEmpty } = .ok next
        ↔ (∀ setting ∈ settings, setting.Sound) ∧ summary settings = next :=
    foldl_put settings ▸ foldlM_eq_ok add_eq_ok
  simp only [ofSettings, bind_eq_ok, added, check_eq_ok]
  constructor
  · rintro ⟨_, ⟨sound, rfl⟩, agree, rfl⟩
    exact ⟨sound, agree, rfl⟩
  · rintro ⟨sound, agree, rfl⟩
    exact ⟨_, ⟨sound, rfl⟩, agree, rfl⟩

/-- An attribute is read exactly if it consists of settings that make it. -/
theorem read_eq_ok
    : CollectionAttribute.read tokens = .ok given
      ↔ ∃ settings,
        attributeSettings CollectionSetting.read tokens = .ok settings
        ∧ ofSettings settings = .ok given := by
  rw [CollectionAttribute.read, attributeSettings]
  split
  case isTrue =>
    constructor
    · rintro ⟨⟩
      exact ⟨[], rfl, rfl⟩
    · rintro ⟨_, ⟨⟩, made⟩
      exact made
  case isFalse =>
    refine inParentheses_settings fun inside given => ?_
    simp only [bind_eq_ok, addSettings_eq_ok, ofSettings]
    constructor
    · rintro ⟨next, ⟨settings, consist, added⟩, checked⟩
      rw [isEmpty_of_readSettings consist] at added
      exact ⟨settings, consist, next, added, checked⟩
    · rintro ⟨settings, consist, next, added, checked⟩
      rw [← isEmpty_of_readSettings consist] at added
      exact ⟨next, ⟨settings, consist, added⟩, checked⟩

/-- The texts that count are texts of settings. -/
theorem mem_of_data? {text : String} (given : (summary settings).data? = some text)
    : .data text ∈ settings := by
  obtain ⟨setting, member, selected⟩ := mem_of_lastGiven given
  cases setting with
  | data =>
      cases selected
      exact member
  | _ => nomatch selected

theorem mem_of_permissions? {text : String} (given : (summary settings).permissions? = some text)
    : .permissions text ∈ settings := by
  obtain ⟨setting, member, selected⟩ := mem_of_lastGiven given
  cases setting with
  | permissions =>
      cases selected
      exact member
  | _ => nomatch selected

end CollectionAttribute

-----------------------------------------------------------------------------------------
-- The attribute of an index
-----------------------------------------------------------------------------------------

/-- Texts of objects are such. -/
def IndexSetting.Sound : IndexSetting → Prop
  | .data text | .permissions text => HoldsObject text
  | _ => True

namespace IndexAttribute

variable {given : IndexAttribute} {settings : List IndexSetting} {tokens : List Token}

/-- Adds a setting without checking it. -/
def put (given : IndexAttribute) : IndexSetting → IndexAttribute
  | .name text => { given with name? := some text }
  | .terms elements => { given with terms := elements }
  | .values elements => { given with values := elements }
  | .unique value => { given with unique := value }
  | .serialized value => { given with serialized? := some value }
  | .data text => { given with data? := some text }
  | .permissions text => { given with permissions? := some text }

/-- What the settings say together. The last value of a key is the one that counts. -/
def summary (settings : List IndexSetting) : IndexAttribute where
  name? := lastGiven (fun | .name text => some text | _ => none) settings
  terms := (lastGiven (fun | .terms elements => some elements | _ => none) settings).getD []
  values := (lastGiven (fun | .values elements => some elements | _ => none) settings).getD []
  unique := (lastGiven (fun | .unique value => some value | _ => none) settings).getD false
  serialized? := lastGiven (fun | .serialized value => some value | _ => none) settings
  data? := lastGiven (fun | .data text => some text | _ => none) settings
  permissions? := lastGiven (fun | .permissions text => some text | _ => none) settings

theorem add_eq_ok (given : IndexAttribute) (setting : IndexSetting) (next : IndexAttribute)
    : given.add setting = .ok next ↔ setting.Sound ∧ given.put setting = next := by
  cases setting with
  | data text | permissions text =>
      simp only [add, check_bind_eq_ok, checkObject_eq_ok, pure_eq_ok, IndexSetting.Sound, put]
  | _ => simp [add, IndexSetting.Sound, put]

/-- Settings that are put one after another amount to their summary, part by part. -/
theorem foldl_put (settings : List IndexSetting) : settings.foldl put {} = summary settings := by
  apply IndexAttribute.ext
  case terms | values | unique =>
    refine foldl_lastGiven_getD fun given setting => ?_
    cases setting <;> rfl
  all_goals
    refine (foldl_lastGiven fun given setting => ?_).trans Option.or_none
    cases setting <;> rfl

/-- Settings make an attribute exactly if they are sound, and it says what they say together. -/
theorem ofSettings_eq_ok
    : ofSettings settings = .ok given
      ↔ (∀ setting ∈ settings, setting.Sound) ∧ summary settings = given :=
  foldl_put settings ▸ foldlM_eq_ok add_eq_ok

/-- An attribute is read exactly if it consists of settings that make it. -/
theorem read_eq_ok
    : IndexAttribute.read tokens = .ok given
      ↔ ∃ settings,
        attributeSettings IndexSetting.read tokens = .ok settings
        ∧ ofSettings settings = .ok given := by
  rw [IndexAttribute.read, attributeSettings]
  split
  case isTrue =>
    constructor
    · rintro ⟨⟩
      exact ⟨[], rfl, rfl⟩
    · rintro ⟨_, ⟨⟩, made⟩
      exact made
  case isFalse => exact inParentheses_settings fun _ _ => addSettings_eq_ok

/-- The texts that count are texts of settings. -/
theorem mem_of_data? {text : String} (given : (summary settings).data? = some text)
    : .data text ∈ settings := by
  obtain ⟨setting, member, selected⟩ := mem_of_lastGiven given
  cases setting with
  | data =>
      cases selected
      exact member
  | _ => nomatch selected

theorem mem_of_permissions? {text : String} (given : (summary settings).permissions? = some text)
    : .permissions text ∈ settings := by
  obtain ⟨setting, member, selected⟩ := mem_of_lastGiven given
  cases setting with
  | permissions =>
      cases selected
      exact member
  | _ => nomatch selected

end IndexAttribute

-----------------------------------------------------------------------------------------
-- The attributes of a field
-----------------------------------------------------------------------------------------

/-- The settings of several field attributes, one attribute after another. -/
def fieldSettings (attributes : List Source.Attribute) : Except Fault (List FieldSetting) := do
  let settings ← attributes.mapM fun found =>
    inParentheses (readSettings FieldSetting.read) found.tokens
  return settings.flatten

namespace FieldAttribute

variable {given : FieldAttribute} {settings : List FieldSetting}

/-- Adds a setting. -/
def put (given : FieldAttribute) : FieldSetting → FieldAttribute
  | .name text => { given with alias? := some text }
  | .skip => { given with skipped := true }

/-- What the settings say together. The last name is the one that counts. -/
def summary (settings : List FieldSetting) : FieldAttribute where
  alias? := lastGiven (fun | .name text => some text | _ => none) settings
  skipped := settings.any (· = .skip)

theorem add_eq_ok (given : FieldAttribute) (setting : FieldSetting) (next : FieldAttribute)
    : given.add setting = .ok next ↔ True ∧ given.put setting = next := by
  cases setting <;> simp [add, put]

/-- Settings that are put one after another amount to their summary, part by part. -/
theorem foldl_put (settings : List FieldSetting) : settings.foldl put {} = summary settings := by
  apply FieldAttribute.ext
  case alias? =>
    refine (foldl_lastGiven fun given setting => ?_).trans Option.or_none
    cases setting <;> rfl
  case skipped =>
    refine (foldl_any fun given setting => ?_).trans (Bool.or_false _)
    cases setting <;> rfl

/-- The settings of an attribute stand before those of the later ones. -/
theorem fieldSettings_cons {first : Source.Attribute} {rest : List Source.Attribute}
    : fieldSettings (first :: rest) = .ok settings
      ↔ ∃ firsts others, inParentheses (readSettings FieldSetting.read) first.tokens = .ok firsts
        ∧ fieldSettings rest = .ok others
        ∧ firsts ++ others = settings := by
  simp only [fieldSettings, List.mapM_cons, bind_eq_ok, pure_eq_ok]
  constructor
  · rintro ⟨_, ⟨firsts, read, lists, others, rfl⟩, rfl⟩
    exact ⟨firsts, lists.flatten, read, ⟨lists, others, rfl⟩, rfl⟩
  · rintro ⟨firsts, _, read, ⟨lists, others, rfl⟩, rfl⟩
    exact ⟨_, ⟨firsts, read, lists, others, rfl⟩, rfl⟩

/-- A further attribute is read exactly if it consists of settings, and these are added. -/
theorem read_eq_ok {so_far : FieldAttribute} {tokens : List Token}
    : so_far.read tokens = .ok given
      ↔ ∃ settings, inParentheses (readSettings FieldSetting.read) tokens = .ok settings
        ∧ settings.foldl put so_far = given := by
  rw [FieldAttribute.read, inParentheses_settings fun _ _ => addSettings_eq_ok]
  simp only [foldlM_eq_ok add_eq_ok, implies_true, true_and]

/-- Attributes are read one after another exactly if each of them consists of settings, and all
these are added; by induction on the attributes.
-/
theorem foldlM_read_eq_ok {attributes : List Source.Attribute} {so_far : FieldAttribute}
    : attributes.foldlM (fun (merged : FieldAttribute) (found : Source.Attribute) =>
          merged.read found.tokens) so_far = .ok given
      ↔ ∃ settings, fieldSettings attributes = .ok settings
        ∧ settings.foldl put so_far = given := by
  induction attributes generalizing so_far with
  | nil => simp [fieldSettings]
  | cons first rest ih =>
      simp only [List.foldlM_cons, bind_eq_ok, ih, read_eq_ok, fieldSettings_cons]
      constructor
      · rintro ⟨_, ⟨firsts, read, rfl⟩, others, readOthers, rfl⟩
        exact ⟨firsts ++ others, ⟨firsts, others, read, readOthers, rfl⟩, List.foldl_append⟩
      · rintro ⟨_, ⟨firsts, others, read, readOthers, rfl⟩, rfl⟩
        exact ⟨_, ⟨firsts, read, rfl⟩, others, readOthers, List.foldl_append.symm⟩

end FieldAttribute

end Catalog.Annotated
