import Catalog.Proofs.Declaration.Lookup
import Catalog.Proofs.Outcome

/-! Scopes that are built by one registration after another, each of which may be refused.
A registration adds its type at the end or leaves the scope as it is. So the names of the types
stay distinct, all types stay valid, and they stand in the order of the accepted registrations.
-/

namespace Catalog

open Outcome

/-- A call that registers a type in a scope. -/
inductive Registration
  | insert (type : TypeDeclaration)
  /-- The outcome of a declaration, for a type of the given name. -/
  | register (typeName : String) (declared : Except Error TypeDeclaration)

namespace Registration

/-- The type to be registered, unless its declaration failed. -/
def type? : Registration → Option TypeDeclaration
  | insert type => some type
  | register _ declared => declared.toOption

/-- What comes of a registration, and the scope afterwards. -/
def apply (registration : Registration) (scope : Scope) : Except Error Unit × Scope :=
  match registration with
  | insert type => scope.tryInsert type
  | register typeName declared => scope.tryRegister typeName declared

end Registration

/-- A registration that was tried, and its outcome. -/
structure Attempt where
  registration : Registration
  outcome : Except Error Unit

/-- The type that an attempt added to the scope. -/
def Attempt.added? (attempt : Attempt) : Option TypeDeclaration :=
  match attempt.outcome with
  | .ok () => attempt.registration.type?
  | .error _ => none

namespace Scope

/-- Tries a registration. -/
def attempt (scope : Scope) (registration : Registration) : Attempt × Scope :=
  let (outcome, next) := registration.apply scope
  (⟨registration, outcome⟩, next)

/-- Tries one registration after another. -/
def attemptAll (scope : Scope) : List Registration → List Attempt × Scope
  | [] => ([], scope)
  | registration :: rest =>
    let (first, next) := scope.attempt registration
    let (others, final) := next.attemptAll rest
    (first :: others, final)

-----------------------------------------------------------------------------------------
-- One registration
-----------------------------------------------------------------------------------------

variable {scope : Scope}

/-- A valid type with a new name is added at the end; any other type is refused, and the scope stays
as it is.
-/
theorem tryInsert_cases (scope : Scope) (type : TypeDeclaration)
    : (scope.get? type.typeName = none
        ∧ type.validate = .ok ()
        ∧ scope.tryInsert type = (.ok (), ⟨scope.types ++ [type]⟩))
      ∨ ¬(scope.get? type.typeName = none ∧ type.validate = .ok ())
        ∧ ∃ error, scope.tryInsert type = (.error error, scope) := by
  rw [tryInsert]
  cases found : scope.get? type.typeName with
  | some other => exact .inr ⟨by simp, _, rfl⟩
  | none =>
      cases valid : type.validate with
      | error error => exact .inr ⟨by simp, _, rfl⟩
      | ok => exact .inl ⟨rfl, rfl, rfl⟩

/-- A type is inserted exactly if its name is new and it is valid; it stands last. -/
theorem insert_eq_ok {type : TypeDeclaration} {next : Scope}
    : scope.insert type = .ok next
      ↔ scope.get? type.typeName = none
        ∧ type.validate = .ok ()
        ∧ next = ⟨scope.types ++ [type]⟩ := by
  rw [insert, stateAfter_eq_ok]
  rcases scope.tryInsert_cases type with ⟨new, valid, tried⟩ | ⟨invalid, error, tried⟩
  · simp [new, valid, tried, eq_comm]
  · rw [tried]
    exact iff_of_false (by simp) fun ⟨new, valid, _⟩ => invalid ⟨new, valid⟩

/-- The name of a type is looked up before the type is checked. -/
theorem insert_eq_bind (scope : Scope) (type : TypeDeclaration)
    : scope.insert type
      = (do
          if (scope.get? type.typeName).isSome then throw (.duplicateType type.typeName)
          type.validate
          return ⟨scope.types ++ [type]⟩) := by
  rw [insert, tryInsert]
  cases scope.get? type.typeName with
  | some other => rfl
  | none => cases type.validate <;> rfl

/-- The outcome of a declaration is registered exactly if the declaration succeeds and its type is
inserted.
-/
theorem register_eq_bind (scope : Scope) (typeName : String)
    (declared : Except Error TypeDeclaration)
    : scope.register typeName declared
      = declared.mapError (.within (.declaration typeName)) >>= scope.insert := by
  cases declared <;> rfl

/-- A registration tries to insert its type, unless the declaration failed; then the scope stays as
it is.
-/
theorem apply_cases (scope : Scope) (registration : Registration)
    : (∃ type, registration.type? = some type ∧ registration.apply scope = scope.tryInsert type)
      ∨ ∃ error, registration.apply scope = (.error error, scope) := by
  cases registration with
  | insert type => exact Or.inl ⟨type, rfl, rfl⟩
  | register typeName declared =>
      cases declared with
      | error error => exact Or.inr ⟨_, rfl⟩
      | ok type => exact Or.inl ⟨type, rfl, rfl⟩

/-- A registration adds a valid type with a new name at the end, or it is refused and leaves
the scope as it is.
-/
theorem attempt_cases (scope : Scope) (registration : Registration)
    : (∃ type,
        registration.type? = some type
        ∧ scope.get? type.typeName = none
        ∧ type.validate = .ok ()
        ∧ scope.attempt registration = (⟨registration, .ok ()⟩, ⟨scope.types ++ [type]⟩))
      ∨ ∃ error, scope.attempt registration = (⟨registration, .error error⟩, scope) := by
  rw [attempt]
  rcases apply_cases scope registration with ⟨type, given, applied⟩ | ⟨error, applied⟩
  · rcases scope.tryInsert_cases type with ⟨new, valid, tried⟩ | ⟨_, error, tried⟩
    · exact Or.inl ⟨type, given, new, valid, by rw [applied, tried]⟩
    · exact Or.inr ⟨error, by rw [applied, tried]⟩
  · exact Or.inr ⟨error, by rw [applied]⟩

theorem registration_attempt (scope : Scope) (registration : Registration)
    : (scope.attempt registration).1.registration = registration :=
  rfl

/-- A refused registration leaves the scope as it is. -/
theorem attempt_refused {registration : Registration} {error : Error}
    (refused : (scope.attempt registration).1.outcome = .error error)
    : (scope.attempt registration).2 = scope := by
  rcases scope.attempt_cases registration with ⟨type, _, _, _, tried⟩ | ⟨_, tried⟩
  · rw [tried] at refused
    nomatch refused
  · rw [tried]

-----------------------------------------------------------------------------------------
-- What registrations keep
-----------------------------------------------------------------------------------------

/-- The names of the types are distinct, and all types are valid. -/
structure WellFormed (scope : Scope) : Prop where
  distinct : (scope.types.map TypeDeclaration.typeName).Nodup
  valid : ∀ type ∈ scope.types, type.validate = .ok ()

/-- The scope without types is well-formed. -/
theorem wellFormed_empty : WellFormed {} :=
  ⟨.nil, fun _ member => nomatch member⟩

/-- Some of the types of a well-formed scope form one as well. -/
theorem WellFormed.sublist {types : List TypeDeclaration} (wellFormed : scope.WellFormed)
    (sublist : types.Sublist scope.types)
    : WellFormed ⟨types⟩ where
  distinct := wellFormed.distinct.sublist (sublist.map _)
  valid type member := wellFormed.valid type (sublist.subset member)

/-- A type stands after those of a well-formed scope in another one exactly if its name is new and
it is valid.
-/
theorem wellFormed_append {type : TypeDeclaration} (wellFormed : scope.WellFormed)
    : WellFormed ⟨scope.types ++ [type]⟩
      ↔ scope.get? type.typeName = none ∧ type.validate = .ok () := by
  constructor
  · rintro ⟨distinct, valid⟩
    rw [List.map_append, List.nodup_append] at distinct
    have last : type ∈ [type] := List.mem_singleton_self type
    refine ⟨get?_eq_none_iff.mpr fun other member same => ?_,
      valid type (List.mem_append_right _ last)⟩
    exact distinct.2.2 _ (List.mem_map_of_mem member) _ (List.mem_map_of_mem last) same
  · rintro ⟨new, valid⟩
    refine ⟨?_, ?_⟩
    · rw [List.map_append, List.nodup_append]
      refine ⟨wellFormed.distinct, List.nodup_singleton _, ?_⟩
      -- A name that stands both before and at the end would have been found.
      rintro _ earlier _ last rfl
      obtain ⟨other, member, same⟩ := List.mem_map.mp earlier
      have named := List.mem_singleton.mp last
      exact get?_eq_none_iff.mp new other member (same.trans named)
    · intro other member
      rcases List.mem_append.mp member with earlier | last
      · exact wellFormed.valid other earlier
      · exact List.mem_singleton.mp last ▸ valid

/-- Types are inserted one after another exactly if there is a well-formed scope in which they
stand after the others, by induction on the types.
-/
theorem foldlM_insert_eq_ok {types : List TypeDeclaration} {next : Scope}
    (wellFormed : scope.WellFormed)
    : types.foldlM insert scope = .ok next
      ↔ next.types = scope.types ++ types ∧ next.WellFormed := by
  induction types generalizing scope with
  | nil =>
      rw [List.foldlM_nil, pure_eq_ok, List.append_nil]
      constructor
      · rintro rfl
        exact ⟨rfl, wellFormed⟩
      · rintro ⟨same, _⟩
        cases scope
        cases next
        exact congrArg Scope.mk same.symm
  | cons type rest ih =>
      simp only [List.foldlM_cons, bind_eq_ok, insert_eq_ok]
      constructor
      · rintro ⟨_, ⟨new, valid, rfl⟩, others⟩
        obtain ⟨same, kept⟩ := (ih ((wellFormed_append wellFormed).mpr ⟨new, valid⟩)).mp others
        exact ⟨by simpa using same, kept⟩
      · rintro ⟨same, kept⟩
        have sublist : (scope.types ++ [type]).Sublist next.types := by
          rw [same, List.append_cons scope.types type rest]
          exact List.sublist_append_left _ _
        have first := kept.sublist sublist
        obtain ⟨new, valid⟩ := (wellFormed_append wellFormed).mp first
        exact ⟨_, ⟨new, valid, rfl⟩, (ih first).mpr ⟨by simpa using same, kept⟩⟩

/-- A registration keeps a scope well-formed: the type that it may add is valid and has a name
that no other type has.
-/
theorem WellFormed.attempt (wellFormed : scope.WellFormed) (registration : Registration)
    : (scope.attempt registration).2.WellFormed := by
  rcases scope.attempt_cases registration with ⟨type, _, new, valid, tried⟩ | ⟨error, tried⟩
  · rw [tried]
    exact (wellFormed_append wellFormed).mpr ⟨new, valid⟩
  · rw [tried]
    exact wellFormed

/-- Registrations keep a scope well-formed, by induction on the registrations. -/
theorem WellFormed.attemptAll (wellFormed : scope.WellFormed)
    (registrations : List Registration)
    : (scope.attemptAll registrations).2.WellFormed := by
  induction registrations generalizing scope with
  | nil => exact wellFormed
  | cons registration rest ih => exact ih (wellFormed.attempt registration)

/-- Every registration is tried once and in its place, by induction on the registrations. -/
theorem registration_attemptAll (scope : Scope) (registrations : List Registration)
    : (scope.attemptAll registrations).1.map Attempt.registration = registrations := by
  induction registrations generalizing scope with
  | nil => rfl
  | cons registration rest ih =>
      exact congrArg₂ List.cons (scope.registration_attempt registration) (ih _)

/-- Registrations add the types of those that are accepted at the end, in their order; by
induction on the registrations.
-/
theorem types_attemptAll (scope : Scope) (registrations : List Registration)
    : (scope.attemptAll registrations).2.types
      = scope.types ++ (scope.attemptAll registrations).1.filterMap Attempt.added? := by
  induction registrations generalizing scope with
  | nil => exact (List.append_nil _).symm
  | cons registration rest ih =>
      rw [attemptAll]
      rcases scope.attempt_cases registration with ⟨type, added, _, _, tried⟩ | ⟨error, tried⟩
      · have first : Attempt.added? ⟨registration, .ok ()⟩ = some type := added
        simp only [tried, ih, List.filterMap_cons, first, List.append_assoc,
          List.singleton_append]
      · have first : Attempt.added? ⟨registration, .error error⟩ = none := rfl
        simp only [tried, ih, List.filterMap_cons, first]

end Scope

end Catalog
