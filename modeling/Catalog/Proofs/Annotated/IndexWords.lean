import Catalog.Proofs.Annotated.Spelling
import Catalog.Proofs.Source.WellFormedWords

/-! The words that index attributes list stand in the attributes.
A setting is spelled with the words that it lists. So in an attribute of an item that a text holds,
they are well-formed.
-/

namespace Catalog.Annotated

open Source (Token Word WordsWellFormed)

variable {tokens : List Token} {settings : List IndexSetting}

/-- The words that a setting lists. -/
def IndexSetting.words : IndexSetting → List Word
  | .terms elements | .values elements => elements
  | _ => []

/-- Names are spelled with their words, by induction on the names. -/
theorem NamesSpelled.mem {words : List Word} (spelled : NamesSpelled words tokens)
    : ∀ word ∈ words, .word word ∈ tokens := by
  induction spelled with
  | none => exact fun word absent => nomatch absent
  | last => simp
  | more _ _ _ ih =>
      rw [List.forall_mem_cons]
      refine ⟨List.mem_cons_self, fun word member => ?_⟩
      exact List.mem_cons_of_mem _ (List.mem_cons_of_mem _ (ih word member))

theorem ElementsSpelled.mem {words : List Word} {after : List Token}
    (spelled : ElementsSpelled words tokens after)
    : ∀ word ∈ words, .word word ∈ tokens := by
  obtain ⟨joint, names, spelledNames, rfl⟩ := spelled
  intro word member
  have listed := List.mem_append_left [.closing .square] (spelledNames.mem word member)
  exact List.mem_cons_of_mem _ (List.mem_cons_of_mem _ listed)

/-- A setting is spelled with its words, by its key. -/
theorem IndexSetting.mem_of_spelled {setting : IndexSetting} {after : List Token}
    (spelled : setting.Spelled tokens after)
    : ∀ word ∈ setting.words, .word word ∈ tokens := by
  obtain ⟨value, rfl, spelled⟩ := spelled
  intro word member
  cases setting with
  | terms elements | values elements =>
      have elementsSpelled : ElementsSpelled elements value after := spelled
      exact List.mem_cons_of_mem _ (elementsSpelled.mem word member)
  | _ => nomatch member

/-- Settings are spelled with their words, by induction on the settings. -/
theorem mem_of_settingsSpelled (spelled : SettingsSpelled IndexSetting.Spelled settings tokens)
    : ∀ setting ∈ settings, ∀ word ∈ setting.words, .word word ∈ tokens := by
  induction spelled with
  | none => exact fun setting absent => nomatch absent
  | last first => simpa using IndexSetting.mem_of_spelled first
  | more _ first _ ih =>
      rw [List.forall_mem_cons]
      refine ⟨fun word member => ?_, fun setting later word member => ?_⟩
      · exact List.mem_append_left _ (IndexSetting.mem_of_spelled first word member)
      · exact List.mem_append_right _ (List.mem_cons_of_mem _ (ih setting later word member))

/-- The words that the attribute of an index lists are well-formed if those of the attribute
are.
-/
theorem words_wellFormed (wellFormed : WordsWellFormed tokens)
    (spelled : AttributeSpelled IndexSetting.Spelled settings tokens)
    : ∀ setting ∈ settings, ∀ word ∈ setting.words, word.WellFormed := by
  rcases spelled with ⟨_, rfl⟩ | ⟨inside, bracket, rfl, _, spelled⟩
  · exact fun setting absent => nomatch absent
  · intro setting member word listed
    have enclosed := mem_of_settingsSpelled spelled setting member word listed
    exact wellFormed word (List.mem_cons_of_mem _ (List.mem_append_left _ enclosed))

end Catalog.Annotated
