import Catalog.Proofs.Annotated.IndexWords
import Catalog.Proofs.Annotated.Attributes
import Mathlib.Data.List.Forall2

/-! Attributes as lists of entries.
An entry is the tokens of one setting. Entries are listed with commas between them, and a comma
may follow the last one. As each entry is spelled alike before a comma, an attribute consists of
the settings of its entries, one after another.
-/

namespace Catalog.Annotated

open Outcome
open Source (Token)

-----------------------------------------------------------------------------------------
-- Spelling before a comma
-----------------------------------------------------------------------------------------

/-- What is spelled at the end is spelled as well before a comma. -/
def Spelling.Separable {β : Type} (spelled : Spelling β) : Prop :=
  ∀ setting taken joint more,
    spelled setting taken [] → spelled setting taken (.mark ',' joint :: more)

/-- After its key, a setting is spelled alike if its value is. -/
theorem Spelling.Separable.keyed {β : Type} {key : β → String} {valueSpelled : Spelling β}
    (separable : Separable valueSpelled)
    : Separable (Keyed key valueSpelled) := by
  rintro setting _ joint more ⟨value, rfl, spelled⟩
  exact ⟨value, rfl, separable setting value joint more spelled⟩

/-- A setting of a collection is spelled alike, by its key. Only a path looks at what follows. -/
theorem CollectionSetting.spelled_separable : Spelling.Separable CollectionSetting.Spelled := by
  refine Spelling.Separable.keyed fun setting taken joint more spelled => ?_
  cases setting with
  | base path =>
      obtain ⟨joined, same, spelled⟩ := spelled
      exact ⟨joined, same, spelled.beforeComma joint more⟩
  | _ => exact spelled

/-- A setting of an index is spelled alike, by its key. -/
theorem IndexSetting.spelled_separable : Spelling.Separable IndexSetting.Spelled := by
  refine Spelling.Separable.keyed fun setting taken joint more spelled => ?_
  cases setting <;> exact spelled

-----------------------------------------------------------------------------------------
-- Listing entries
-----------------------------------------------------------------------------------------

/-- How entries are listed: with commas between them, and maybe one after the last. -/
inductive Listed : List (List Token) → List Token → Prop
  | none : Listed [] []
  | last (entry : List Token) : Listed [entry] entry
  | more (entry : List Token) (joint : Bool) {entries : List (List Token)} {tokens : List Token}
      (others : Listed entries tokens)
      : Listed (entry :: entries) (entry ++ .mark ',' joint :: tokens)

/-- How an attribute is written that has entries: in parentheses, without which it has none. -/
inductive AttributeOf : List (List Token) → List Token → Prop
  | bare : AttributeOf [] []
  | enclosed {entries : List (List Token)} {tokens : List Token} (listed : Listed entries tokens)
      : AttributeOf entries (.opening .round :: tokens ++ [.closing .round])

/-- The tokens spell one setting, which is sound, and all brackets in them are closed. -/
structure EntryOf {β : Type} (spelled : Spelling β) (sound : β → Prop) (entry : List Token)
    (setting : β) : Prop where
  spelled : spelled setting entry []
  closed : Source.closesBrackets [] entry
  sound : sound setting

section Listing

variable {α β : Type} {spelled : Spelling β} {sound : β → Prop} {entries : List (List Token)}
  {settings : List β} {tokens : List Token}

/-- Brackets are closed in a list of entries, by induction on the list. -/
theorem Listed.closed (listed : Listed entries tokens)
    (each : List.Forall₂ (EntryOf spelled sound) entries settings)
    : Source.closesBrackets [] tokens := by
  induction listed generalizing settings with
  | none => rfl
  | last entry =>
      obtain ⟨_, _, first, _, rfl⟩ := List.forall₂_cons_left_iff.mp each
      exact first.closed
  | more entry joint listed ih =>
      obtain ⟨_, _, first, others, rfl⟩ := List.forall₂_cons_left_iff.mp each
      exact Source.closesBrackets_append first.closed (ih others)

/-- Entries that are listed spell their settings one after another, by induction on the list. -/
theorem Listed.settingsSpelled (listed : Listed entries tokens) (separable : spelled.Separable)
    (each : List.Forall₂ (EntryOf spelled sound) entries settings)
    : SettingsSpelled spelled settings tokens := by
  induction listed generalizing settings with
  | none =>
      cases each
      exact .none
  | last entry =>
      obtain ⟨setting, _, first, none, rfl⟩ := List.forall₂_cons_left_iff.mp each
      cases none
      exact .last first.spelled
  | @more entry joint _ tokens _ ih =>
      obtain ⟨setting, later, first, others, rfl⟩ := List.forall₂_cons_left_iff.mp each
      exact .more joint (separable setting entry joint tokens first.spelled) (ih others)

/-- An attribute spells the settings of its entries. -/
theorem AttributeOf.attributeSpelled (written : AttributeOf entries tokens)
    (separable : spelled.Separable) (each : List.Forall₂ (EntryOf spelled sound) entries settings)
    : AttributeSpelled spelled settings tokens := by
  cases written with
  | bare =>
      cases each
      exact .inl ⟨rfl, rfl⟩
  | @enclosed _ inside listed =>
      have closed : Source.BracketsClosed 0 inside :=
        Source.bracketsClosed_of_closes (listed.closed each)
      exact .inr ⟨inside, .round, rfl, closed, listed.settingsSpelled separable each⟩

/-- What is made of the settings in parentheses is made of what stands there. -/
theorem inParentheses_of_settings {read : Reader β} {make : List Token → Except Fault α}
    {outcome : Except Fault α} (consist : inParentheses (readSettings read) tokens = .ok settings)
    (made : ∀ inside, readSettings read inside = .ok settings → make inside = outcome)
    : inParentheses make tokens = outcome := by
  obtain ⟨rest, inside, rfl, split, settingsRead⟩ := inParentheses_eq_ok.mp consist
  simp only [inParentheses, split, made inside settingsRead]
  cases outcome <;> rfl

end Listing

/-- A collection attribute is what its settings make. -/
theorem CollectionAttribute.read_of_settings {tokens : List Token}
    {settings : List CollectionSetting}
    (consist : attributeSettings CollectionSetting.read tokens = .ok settings)
    : CollectionAttribute.read tokens = ofSettings settings := by
  rw [attributeSettings] at consist
  rw [CollectionAttribute.read]
  split at consist
  case isTrue bare =>
    cases consist
    rw [if_pos bare]
    rfl
  case isFalse given =>
    rw [if_neg given]
    refine inParentheses_of_settings consist fun inside settingsRead => ?_
    rw [addSettings_of_readSettings settingsRead, isEmpty_of_readSettings settingsRead]
    rfl

/-- A collection attribute is what the settings of its entries make. -/
theorem CollectionAttribute.read_of_entries {sound : CollectionSetting → Prop}
    {entries : List (List Token)} {tokens : List Token} {settings : List CollectionSetting}
    (written : AttributeOf entries tokens)
    (each : List.Forall₂ (EntryOf CollectionSetting.Spelled sound) entries settings)
    : CollectionAttribute.read tokens = ofSettings settings :=
  read_of_settings ((attributeSettings_eq_ok CollectionSetting.read_reads).mpr
    (written.attributeSpelled CollectionSetting.spelled_separable each))

/-- An index attribute is what its settings make. -/
theorem IndexAttribute.read_of_settings {tokens : List Token} {settings : List IndexSetting}
    (consist : attributeSettings IndexSetting.read tokens = .ok settings)
    : IndexAttribute.read tokens = ofSettings settings := by
  rw [attributeSettings] at consist
  rw [IndexAttribute.read]
  split at consist
  case isTrue bare =>
    cases consist
    rw [if_pos bare]
    rfl
  case isFalse given =>
    rw [if_neg given]
    exact inParentheses_of_settings consist fun inside settingsRead =>
      addSettings_of_readSettings settingsRead add {}

/-- An index attribute is what the settings of its entries make. -/
theorem IndexAttribute.read_of_entries {sound : IndexSetting → Prop}
    {entries : List (List Token)} {tokens : List Token} {settings : List IndexSetting}
    (written : AttributeOf entries tokens)
    (each : List.Forall₂ (EntryOf IndexSetting.Spelled sound) entries settings)
    : IndexAttribute.read tokens = ofSettings settings :=
  read_of_settings ((attributeSettings_eq_ok IndexSetting.read_reads).mpr
    (written.attributeSpelled IndexSetting.spelled_separable each))

end Catalog.Annotated
