import Catalog.Annotated.Expansion
import Catalog.Proofs.Declaration.FlatValues

/-! The elements of annotated indexes.
Every word among the terms and values of an index is resolved on its own. So the elements of the
draft are those of the words, in order, and refer to declared members only.
-/

namespace Catalog

/-- The member that an item of the flat form refers to. -/
def FlatItem.member? (item : FlatItem) : Option String :=
  item.element?.bind Element.member?

namespace Annotated

open Outcome
open Source (Word)

variable {members : List String}

/-- What a word means among the elements of an index: a marker, or else the field of a member. -/
def meaning (word : Word) : FlatItem :=
  (marker? word).getD (.element (.field word.name))

/-- The names of the markers. -/
def markerNames : List String :=
  ["Ref", "Ts", "Reverse", "Default"]

/-- A word is not both a marker and one of the members. -/
def Unambiguous (members : List String) (word : Word) : Prop :=
  word.raw = false → word.name ∈ markerNames → word.name ∉ members

instance (members : List String) (word : Word) : Decidable (Unambiguous members word) :=
  inferInstanceAs (Decidable (word.raw = false → word.name ∈ markerNames → word.name ∉ members))

/-- The markers are the plain words with the names of markers. -/
theorem marker?_isSome {word : Word}
    : (marker? word).isSome ↔ word.raw = false ∧ word.name ∈ markerNames := by
  unfold marker? markerNames
  by_cases raw : word.raw = true
  · simp [raw]
  · rw [if_neg raw]
    split <;> simp_all

/-- A marker refers to no member. -/
theorem member?_of_marker? {word : Word} {item : FlatItem} (marked : marker? word = some item)
    : item.member? = none := by
  unfold marker? at marked
  split at marked
  · nomatch marked
  · split at marked
    all_goals
      cases marked
      try rfl

/-- A word is resolved exactly if it is unambiguous and refers to a declared member, if it refers
to one; and then it is resolved to what it means.
-/
theorem resolve_eq_ok {word : Word} {item : FlatItem}
    : resolve members word = .ok item
      ↔ Unambiguous members word
        ∧ meaning word = item
        ∧ ∀ member ∈ item.member?, member ∈ members := by
  unfold resolve Unambiguous meaning
  cases marked : marker? word with
  | none =>
      dsimp only
      constructor
      · intro resolved
        split at resolved
        case isTrue declared =>
          cases resolved
          refine ⟨fun plain named => ?_, rfl, ?_⟩
          · exact absurd (marker?_isSome.mpr ⟨plain, named⟩) (by simp [marked])
          · rintro _ ⟨⟩
            exact declared
        case isFalse => nomatch resolved
      · rintro ⟨_, rfl, declared⟩
        exact if_pos (declared word.name rfl)
  | some found =>
      dsimp only
      constructor
      · intro resolved
        split at resolved
        case isTrue => nomatch resolved
        case isFalse undeclared =>
          cases resolved
          rw [member?_of_marker? marked]
          exact ⟨fun _ _ => undeclared, rfl, nofun⟩
      · rintro ⟨unambiguous, rfl, _⟩
        obtain ⟨plain, named⟩ := marker?_isSome.mp (Option.isSome_of_eq_some marked)
        exact if_neg (unambiguous plain named)

/-- Resolving a term is resolving a word, to an element. -/
theorem resolveTerm_eq_ok {word : Word} {element : Element}
    : resolveTerm members word = .ok element
      ↔ resolve members word = .ok (.element element) := by
  unfold resolveTerm
  cases resolve members word with
  | error fault => simp [bind, Except.bind]
  | ok item => cases item <;> simp

/-- Reading values is resolving their words and adding the items, by induction on the words. -/
theorem foldlM_resolveValue_eq_ok {words : List Word} {state final : ValueState}
    : words.foldlM (resolveValue members) state = .ok final
      ↔ ∃ items, words.mapM (resolve members) = .ok items
        ∧ items.foldlM ValueState.add state = .ok final := by
  induction words generalizing state with
  | nil => simp
  | cons word rest ih =>
      simp only [List.foldlM_cons, List.mapM_cons, bind_eq_ok, resolveValue, ih, pure_eq_ok]
      -- The first item is added before the other words are resolved, or after all of them.
      constructor
      · rintro ⟨next, ⟨item, resolved, added⟩, items, resolvedOthers, addedOthers⟩
        refine ⟨item :: items, ⟨item, resolved, items, resolvedOthers, rfl⟩, ?_⟩
        rw [List.foldlM_cons, added, ok_bind, addedOthers]
      · rintro ⟨_, ⟨item, resolved, items, resolvedOthers, rfl⟩, addedAll⟩
        obtain ⟨next, added, addedOthers⟩ := bind_eq_ok.mp addedAll
        exact ⟨next, ⟨item, resolved, added⟩, items, resolvedOthers, addedOthers⟩

-----------------------------------------------------------------------------------------
-- Adding values is reading their flat form
-----------------------------------------------------------------------------------------

/-- Two ways to read values have read the same: the values are those of the flat form, and an order
may follow here if it may follow there.
-/
structure ValueState.Agrees (state : ValueState) (flat : FlatState) : Prop where
  values : state.values.map ValueDraft.toSorted = flat.values.reverse
  unmodified : state.modified = false ↔ flat.open?.isSome

/-- No item has been read in either way. -/
theorem ValueState.agrees_start : Agrees {} ⟨0, none, []⟩ :=
  ⟨rfl, by simp⟩

/-- An item is added exactly if it is read in the flat form, and both ways agree afterwards. An
element opens a value; an order closes the last one, if that is open, and is refused otherwise.
-/
theorem ValueState.Agrees.step {state : ValueState} {flat : FlatState} (agrees : state.Agrees flat)
    (item : FlatItem)
    : (∃ next nextFlat, state.add item = .ok next
        ∧ flat.step item = .ok nextFlat
        ∧ next.Agrees nextFlat)
      ∨ ∃ fault error, state.add item = .error fault ∧ flat.step item = .error error := by
  obtain ⟨position, open?, closed⟩ := flat
  obtain ⟨values, unmodified⟩ := agrees
  cases item with
  | element element =>
      refine .inl ⟨_, _, rfl, rfl, ?_, by simp⟩
      rw [List.map_append, values]
      simp [FlatState.values, ValueDraft.toSorted]
  | order order =>
      cases open? with
      | none =>
          have modified : state.modified = true := by simpa using unmodified
          refine .inr ⟨.danglingOrder, .danglingOrder position, ?_, rfl⟩
          rw [add, modified]
          cases state.values.getLast? <;> rfl
      | some element =>
          -- The value that is open is the last one, and without an order so far.
          have modified : state.modified = false := by simpa using unmodified
          rw [FlatState.values, List.reverse_cons, List.map_eq_append_iff] at values
          obtain ⟨before, last, split, others, lastValue⟩ := values
          obtain ⟨draft, rfl, made⟩ := List.map_eq_singleton_iff.mp lastValue
          have same : draft.element = element := by
            have elements := congrArg SortedElement.element made
            unfold ValueDraft.toSorted at elements
            split at elements <;> exact elements
          refine .inl ⟨⟨before ++ [{ draft with reversed := order = .reverse }], true⟩, _, ?_,
            rfl, ?_, by simp⟩
          · rw [add, split, List.getLast?_concat, modified, List.dropLast_concat]
            rfl
          · rw [List.map_append, others]
            cases order <;> simp [FlatState.values, ValueDraft.toSorted, same]

/-- Items are added exactly if they are read in the flat form, by induction on the items. -/
theorem ValueState.Agrees.foldlM {state : ValueState} {flat : FlatState}
    (agrees : state.Agrees flat) (items : List FlatItem)
    : (∃ final finalFlat, items.foldlM add state = .ok final
        ∧ items.foldlM FlatState.step flat = .ok finalFlat
        ∧ final.Agrees finalFlat)
      ∨ ∃ fault error, items.foldlM add state = .error fault
          ∧ items.foldlM FlatState.step flat = .error error := by
  induction items generalizing state flat with
  | nil => exact .inl ⟨state, flat, rfl, rfl, agrees⟩
  | cons item rest ih =>
      simp only [List.foldlM_cons]
      rcases agrees.step item with ⟨next, nextFlat, added, read, still⟩ | ⟨_, _, added, read⟩
      · rw [added, read]
        exact ih still
      · rw [added, read]
        exact .inr ⟨_, _, rfl, rfl⟩

/-- The values that items are added to are those of which the items are the flat form. -/
theorem foldlM_add_eq_ok {items : List FlatItem} {values : List SortedElement}
    : (∃ final, items.foldlM ValueState.add {} = .ok final
        ∧ final.values.map ValueDraft.toSorted = values)
      ↔ SortedElement.ofFlat items = .ok values := by
  rw [SortedElement.ofFlat]
  rcases ValueState.agrees_start.foldlM items with
    ⟨final, finalFlat, added, read, agrees⟩ | ⟨_, _, added, read⟩
  · simp only [added, read, ok_bind, pure_eq_ok, ← agrees.values, Except.ok.injEq, exists_eq_left']
  · rw [added, read]
    exact iff_of_false (fun ⟨_, impossible, _⟩ => nomatch impossible)
      (fun impossible => nomatch impossible)

/-- The draft of an index has the elements of its terms, and the values that the items of its
values form.
-/
theorem IndexAttribute.toDraft_eq_ok {given : IndexAttribute} {draft : IndexDraft}
    : given.toDraft members = .ok draft
      ↔ ∃ terms items values,
        given.terms.mapM (resolveTerm members) = .ok terms
        ∧ given.values.mapM (resolve members) = .ok items
        ∧ SortedElement.ofFlat items = .ok values
        ∧ { name? := given.name?
            terms
            values
            unique := given.unique
            serialized? := given.serialized?
            data? := given.data?
            permissions? := given.permissions? : IndexDraft } = draft := by
  simp only [toDraft, bind_eq_ok, foldlM_resolveValue_eq_ok, ← foldlM_add_eq_ok, pure_eq_ok]
  constructor
  · rintro ⟨terms, resolvedTerms, final, ⟨items, resolved, added⟩, rfl⟩
    exact ⟨terms, items, _, resolvedTerms, resolved, ⟨final, added, rfl⟩, rfl⟩
  · rintro ⟨terms, items, _, resolvedTerms, resolved, ⟨final, added, rfl⟩, rfl⟩
    exact ⟨terms, resolvedTerms, final, ⟨items, resolved, added⟩, rfl⟩

/-- The elements of a drafted index refer to declared members. -/
theorem IndexAttribute.toDraft_declared {given : IndexAttribute} {draft : IndexDraft}
    (drafted : given.toDraft members = .ok draft)
    : ∀ element ∈ draft.terms ++ draft.values.map SortedElement.element,
        ∀ member ∈ element.member?, member ∈ members := by
  obtain ⟨terms, items, values, resolvedTerms, resolved, read, rfl⟩ := toDraft_eq_ok.mp drafted
  intro element present
  rcases List.mem_append.mp present with term | value
  · obtain ⟨word, _, found⟩ := exists_of_mem_mapM resolvedTerms element term
    exact (resolve_eq_ok.mp (resolveTerm_eq_ok.mp found)).2.2
  · rw [SortedElement.elements_ofFlat read] at value
    obtain ⟨item, listed, same⟩ := List.mem_filterMap.mp value
    obtain ⟨word, _, found⟩ := exists_of_mem_mapM resolved item listed
    have declared := (resolve_eq_ok.mp found).2.2
    rwa [FlatItem.member?, same, Option.bind_some] at declared

end Annotated

end Catalog
