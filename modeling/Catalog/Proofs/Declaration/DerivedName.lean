import Catalog.Declaration.IndexName
import Catalog.Proofs.Declaration.Lookup

/-! When two indexes have the same derived name.
A derived name joins the tokens of the values, `by` and the tokens of the terms. If the names of
the collection and of the fields cannot be taken for anything else in it, the name can be taken
apart again, and so it says which terms and which values the index has.
-/

namespace Catalog

/-- Tokens without underscores are recovered from the text that joins them by underscores. -/
theorem intercalate_inj {left right : List String}
    (leftUnbroken : ∀ token ∈ left, '_' ∉ token.toList)
    (rightUnbroken : ∀ token ∈ right, '_' ∉ token.toList)
    (leftPresent : left ≠ []) (rightPresent : right ≠ [])
    (same : "_".intercalate left = "_".intercalate right)
    : left = right := by
  have split {tokens : List String} (unbroken : ∀ token ∈ tokens, '_' ∉ token.toList)
      (present : tokens ≠ [])
      : ("_".intercalate tokens).toList.splitOn '_' = tokens.map String.toList := by
    rw [String.toList_intercalate]
    exact List.splitOn_intercalate '_' (List.forall_mem_map.mpr unbroken) (by simpa using present)
  have parts := congrArg (fun name => name.toList.splitOn '_') same
  simp only [split leftUnbroken leftPresent, split rightUnbroken rightPresent] at parts
  exact (List.map_inj_right fun _ _ => String.toList_inj.mp).mp parts

/-- The element refers to a declared member, if it refers to one. -/
def Element.DeclaredIn (fields : FieldMap) (element : Element) : Prop :=
  ∀ member ∈ element.member?, (fields.get? member).isSome

instance (fields : FieldMap) (element : Element) : Decidable (element.DeclaredIn fields) :=
  inferInstanceAs (Decidable (∀ member ∈ element.member?, (fields.get? member).isSome))

/-- The names of a collection and of its fields can be told apart in derived names: none of them
is broken by an underscore or is a word that derived names have of their own, and no field is
stored under the name of the collection.
-/
structure FieldMap.Separable (fields : FieldMap) (collection : String) : Prop where
  unbroken : ∀ name ∈ collection :: fields.toList.map Field.storedName, '_' ∉ name.toList
  unreserved
    : ∀ name ∈ collection :: fields.toList.map Field.storedName, name ∉ ["by", "ts", "reverse"]
  apart : ∀ field ∈ fields.toList, field.storedName ≠ collection

namespace IndexDeclaration

variable {collection : String} {fields : FieldMap}

-----------------------------------------------------------------------------------------
-- Tokens of elements
-----------------------------------------------------------------------------------------

/-- A declared member stands for the stored name of its field. -/
theorem elementToken_field (collection : String) {member : String}
    (declared : Element.DeclaredIn fields (.field member))
    : ∃ field ∈ fields.toList,
        field.member = member
        ∧ elementToken collection fields (.field member) = field.storedName := by
  obtain ⟨field, found⟩ := Option.isSome_iff_exists.mp (declared member rfl)
  obtain ⟨listed, rfl⟩ := FieldMap.get?_eq_some.mp found
  exact ⟨field, listed, rfl, FieldMap.resolve_of_mem listed⟩

/-- The token of an element is `ts` or a name of the collection or of a field. -/
theorem elementToken_cases (collection : String) {element : Element}
    (declared : element.DeclaredIn fields)
    : elementToken collection fields element = "ts"
      ∨ elementToken collection fields element
        ∈ collection :: fields.toList.map Field.storedName := by
  cases element with
  | field member =>
      obtain ⟨field, listed, _, stored⟩ := elementToken_field collection declared
      rw [stored]
      exact Or.inr (List.mem_cons_of_mem _ (List.mem_map_of_mem listed))
  | selfReference => exact Or.inr List.mem_cons_self
  | timestamp => exact Or.inl rfl

variable (separable : fields.Separable collection)

include separable

theorem elementToken_unbroken {element : Element} (declared : element.DeclaredIn fields)
    : '_' ∉ (elementToken collection fields element).toList := by
  rcases elementToken_cases collection declared with time | named
  · rw [time]
    decide
  · exact separable.unbroken _ named

/-- No token of an element is the word between values and terms, or the mark of an order. -/
theorem elementToken_ne {element : Element} (declared : element.DeclaredIn fields)
    : elementToken collection fields element ≠ "by"
      ∧ elementToken collection fields element ≠ "reverse" := by
  rcases elementToken_cases collection declared with time | named
  · rw [time]
    decide
  · have unreserved := separable.unreserved _ named
    simp only [List.mem_cons, not_or] at unreserved
    exact ⟨unreserved.1, unreserved.2.2.1⟩

theorem collection_ne_ts : collection ≠ "ts" := by
  rintro rfl
  exact separable.unreserved "ts" List.mem_cons_self (by decide)

/-- The token of a member is neither that of the timestamp nor the collection's name. -/
theorem elementToken_field_ne {member : String}
    (declared : Element.DeclaredIn fields (.field member))
    : elementToken collection fields (.field member) ≠ "ts"
      ∧ elementToken collection fields (.field member) ≠ collection := by
  obtain ⟨field, listed, _, stored⟩ := elementToken_field collection declared
  rw [stored]
  refine ⟨?_, separable.apart field listed⟩
  intro time
  have named : "ts" ∈ collection :: fields.toList.map Field.storedName :=
    time ▸ List.mem_cons_of_mem _ (List.mem_map_of_mem listed)
  exact separable.unreserved "ts" named (by decide)

/-- Declared elements with the same token are the same, by their cases. Two fields are the same
as stored names are distinct.
-/
theorem elementToken_inj {left right : Element} (leftDeclared : left.DeclaredIn fields)
    (rightDeclared : right.DeclaredIn fields)
    (same : elementToken collection fields left = elementToken collection fields right)
    : left = right := by
  cases left with
  | field member =>
      cases right with
      | field other =>
          obtain ⟨field, listed, rfl, stored⟩ :=
            elementToken_field collection leftDeclared
          obtain ⟨found, present, rfl, kept⟩ :=
            elementToken_field collection rightDeclared
          rw [stored, kept] at same
          obtain rfl :=
            List.inj_on_of_nodup_map fields.valid.storedNames_nodup listed present same
          rfl
      | selfReference => exact absurd same (elementToken_field_ne separable leftDeclared).2
      | timestamp => exact absurd same (elementToken_field_ne separable leftDeclared).1
  | selfReference =>
      cases right with
      | field other => exact absurd same.symm (elementToken_field_ne separable rightDeclared).2
      | selfReference => rfl
      | timestamp => exact absurd same (collection_ne_ts separable)
  | timestamp =>
      cases right with
      | field other => exact absurd same.symm (elementToken_field_ne separable rightDeclared).1
      | selfReference => exact absurd same.symm (collection_ne_ts separable)
      | timestamp => rfl

/-- Terms with the same tokens are the same, by induction on the terms. -/
theorem terms_inj {left right : List Element}
    (leftDeclared : ∀ element ∈ left, element.DeclaredIn fields)
    (rightDeclared : ∀ element ∈ right, element.DeclaredIn fields)
    (same : left.map (elementToken collection fields)
      = right.map (elementToken collection fields))
    : left = right := by
  induction left generalizing right with
  | nil => exact (List.map_eq_nil_iff.mp same.symm).symm
  | cons element rest ih =>
      cases right with
      | nil => nomatch same
      | cons other others =>
          rw [List.forall_mem_cons] at leftDeclared rightDeclared
          obtain ⟨first, tail⟩ := List.cons.inj same
          rw [elementToken_inj separable leftDeclared.1 rightDeclared.1 first,
            ih leftDeclared.2 rightDeclared.2 tail]

-----------------------------------------------------------------------------------------
-- Tokens of values
-----------------------------------------------------------------------------------------

/-- What follows the tokens of a value does not start with the mark of an order. -/
theorem valueTokens_head {values : List SortedElement}
    (declared : ∀ value ∈ values, value.element.DeclaredIn fields) {rest : List String}
    : values.flatMap (valueTokens collection fields) ≠ "reverse" :: rest := by
  cases values with
  | nil => exact fun impossible => nomatch impossible
  | cons value others =>
      intro marked
      rw [List.flatMap_cons, valueTokens, List.cons_append] at marked
      exact (elementToken_ne separable (declared value List.mem_cons_self)).2
        (List.cons.inj marked).1

/-- Values with the same tokens are the same, by induction on the values. Whether a mark follows
the token of an element tells its order, as the next element has another token.
-/
theorem values_inj {left right : List SortedElement}
    (leftDeclared : ∀ value ∈ left, value.element.DeclaredIn fields)
    (rightDeclared : ∀ value ∈ right, value.element.DeclaredIn fields)
    (same : left.flatMap (valueTokens collection fields)
      = right.flatMap (valueTokens collection fields))
    : left = right := by
  induction left generalizing right with
  | nil =>
      cases right with
      | nil => rfl
      | cons => nomatch same
  | cons value rest ih =>
      cases right with
      | nil => nomatch same
      | cons other others =>
          rw [List.forall_mem_cons] at leftDeclared rightDeclared
          obtain ⟨element, order⟩ := value
          obtain ⟨otherElement, otherOrder⟩ := other
          simp only [List.flatMap_cons, valueTokens, List.cons_append] at same
          obtain ⟨first, tail⟩ := List.cons.inj same
          obtain rfl := elementToken_inj separable leftDeclared.1 rightDeclared.1 first
          -- If only one has a mark, the other list goes on with an element where the mark stands.
          cases order <;> cases otherOrder
          case default.default => rw [ih leftDeclared.2 rightDeclared.2 tail]
          case default.reverse => exact absurd tail (valueTokens_head separable leftDeclared.2)
          case reverse.default =>
            exact absurd tail.symm (valueTokens_head separable rightDeclared.2)
          case reverse.reverse =>
            rw [ih leftDeclared.2 rightDeclared.2 (List.cons.inj tail).2]

/-- No token of a value is the word between values and terms. -/
theorem by_notMem_valueTokens {values : List SortedElement}
    (declared : ∀ value ∈ values, value.element.DeclaredIn fields)
    : "by" ∉ values.flatMap (valueTokens collection fields) := by
  intro member
  obtain ⟨value, listed, token⟩ := List.mem_flatMap.mp member
  rcases List.mem_cons.mp token with first | mark
  · exact (elementToken_ne separable (declared value listed)).1 first.symm
  · cases order : value.order <;> simp [order] at mark

theorem valueTokens_unbroken {values : List SortedElement}
    (declared : ∀ value ∈ values, value.element.DeclaredIn fields) {token : String}
    (member : token ∈ values.flatMap (valueTokens collection fields))
    : '_' ∉ token.toList := by
  obtain ⟨value, listed, token⟩ := List.mem_flatMap.mp member
  rcases List.mem_cons.mp token with rfl | mark
  · exact elementToken_unbroken separable (declared value listed)
  · cases order : value.order <;> simp [order] at mark
    rw [mark]
    decide

omit separable

-----------------------------------------------------------------------------------------
-- Names
-----------------------------------------------------------------------------------------

/-- The values that an index lists; without any it lists the document's own reference. -/
def listedValues (index : IndexDeclaration) : List SortedElement :=
  if index.values.isEmpty then [{ element := .selfReference }] else index.values

/-- The tokens of a derived name, in order. -/
def nameTokens (index : IndexDeclaration) (collection : String) (fields : FieldMap)
    : List String :=
  index.listedValues.flatMap (valueTokens collection fields)
    ++ "by" :: index.terms.map (elementToken collection fields)

/-- A derived name joins its tokens: without values, the collection's name is the token of the
own reference.
-/
theorem derivedName_eq_intercalate (index : IndexDeclaration) (collection : String)
    (fields : FieldMap)
    : index.derivedName collection fields
      = "_".intercalate (index.nameTokens collection fields) := by
  rw [derivedName, nameTokens, listedValues]
  cases index.values <;> rfl

variable {index : IndexDeclaration}
  (declared : ∀ element ∈ index.elements, element.DeclaredIn fields)

include declared

theorem terms_declared : ∀ element ∈ index.terms, element.DeclaredIn fields :=
  fun element member => declared element (List.mem_append_left _ member)

/-- An index without values lists no member, as the own reference refers to none. -/
theorem listedValues_declared
    : ∀ value ∈ index.listedValues, value.element.DeclaredIn fields := by
  intro value member
  rw [listedValues] at member
  split at member
  · obtain rfl := List.mem_singleton.mp member
    exact fun _ refers => nomatch refers
  · exact declared _ (List.mem_append_right _ (List.mem_map_of_mem member))

theorem nameTokens_unbroken (separable : fields.Separable collection)
    : ∀ token ∈ index.nameTokens collection fields, '_' ∉ token.toList := by
  intro token member
  rcases List.mem_append.mp member with value | later
  · exact valueTokens_unbroken separable (listedValues_declared declared) value
  · rcases List.mem_cons.mp later with rfl | term
    · decide
    · obtain ⟨element, listed, rfl⟩ := List.mem_map.mp term
      exact elementToken_unbroken separable (terms_declared declared element listed)

theorem by_notMem_terms (separable : fields.Separable collection)
    : "by" ∉ index.terms.map (elementToken collection fields) := by
  intro member
  obtain ⟨element, listed, same⟩ := List.mem_map.mp member
  exact (elementToken_ne separable (terms_declared declared element listed)).1 same

omit declared

/-- If names can be told apart, two indexes have the same derived name exactly if their terms and
their values are equal, where an index without values lists the own reference. Proof: the name is
taken apart at the underscores, then at `by`, then token by token.
-/
theorem derivedName_eq_iff {collection : String} {fields : FieldMap}
    (separable : fields.Separable collection) {left right : IndexDeclaration}
    (leftDeclared : ∀ element ∈ left.elements, element.DeclaredIn fields)
    (rightDeclared : ∀ element ∈ right.elements, element.DeclaredIn fields)
    : left.derivedName collection fields = right.derivedName collection fields
      ↔ left.terms = right.terms ∧ left.listedValues = right.listedValues := by
  rw [derivedName_eq_intercalate, derivedName_eq_intercalate]
  constructor
  · intro same
    have tokens : left.nameTokens collection fields = right.nameTokens collection fields :=
      intercalate_inj (nameTokens_unbroken leftDeclared separable)
        (nameTokens_unbroken rightDeclared separable) (by simp [nameTokens])
        (by simp [nameTokens]) same
    obtain ⟨values, _, terms⟩ := (List.append_cons_inj_of_notMem
      (by_notMem_valueTokens separable (listedValues_declared leftDeclared))
      (by_notMem_terms leftDeclared separable)).mp tokens
    exact ⟨
      terms_inj separable (terms_declared leftDeclared) (terms_declared rightDeclared) terms,
      values_inj separable (listedValues_declared leftDeclared)
        (listedValues_declared rightDeclared) values
    ⟩
  · rintro ⟨terms, values⟩
    rw [nameTokens, nameTokens, terms, values]

/-- Two indexes of `people`, one of which lists nothing and the other the reference, share the name
`people_by_ts_Age`; with the reference reversed the name is another one.
-/
theorem derivedName_eq_iff_people
    : let fields : FieldMap := ⟨[⟨"name", none⟩, ⟨"age", some "Age"⟩], by
        constructor <;> simp [Field.storedName]⟩
      let terms := [Element.timestamp, .field "age"]
      let bare : IndexDeclaration := { terms }
      let listed : IndexDeclaration := { terms, values := [{ element := .selfReference }] }
      let reversed : IndexDeclaration :=
        { terms, values := [{ element := .selfReference, order := .reverse }] }
      fields.Separable "people"
      ∧ bare.derivedName "people" fields = listed.derivedName "people" fields
      ∧ bare.derivedName "people" fields ≠ reversed.derivedName "people" fields := by
  intro fields terms bare listed reversed
  have separable : fields.Separable "people" := ⟨by decide, by decide, by decide⟩
  have declared : ∀ index ∈ [bare, listed, reversed], ∀ element ∈ index.elements,
      element.DeclaredIn fields := by decide
  simp only [List.forall_mem_cons, List.not_mem_nil, false_imp_iff, implies_true,
    and_true] at declared
  refine ⟨separable, ?_, ?_⟩
  · exact (derivedName_eq_iff separable declared.1 declared.2.1).mpr ⟨rfl, rfl⟩
  · intro same
    have values := ((derivedName_eq_iff separable declared.1 declared.2.2).mp same).2
    exact absurd values (by decide)

end IndexDeclaration

end Catalog
