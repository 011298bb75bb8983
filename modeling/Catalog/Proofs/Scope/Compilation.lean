import Catalog.Proofs.Compilation.Validation
import Catalog.Proofs.Database.PassTrace
import Catalog.Proofs.Scope.Registration

/-! A scope that was built by registrations can always be compiled.
All its types are valid, so every compilation of them succeeds, whatever the options and the
base are. What is left to fail is the database, or a base that is not registered.
-/

namespace Catalog

open Outcome

-----------------------------------------------------------------------------------------
-- Valid types
-----------------------------------------------------------------------------------------

namespace PassOptions

variable {options : PassOptions} {scope : Scope} {base : String}

/-- A pass over valid types has a plan, since each of them compiles. -/
theorem plan_of_valid {types : List TypeDeclaration}
    (valid : ∀ type ∈ types, type.validate = .ok ())
    : ∃ operations, options.plan types = .ok operations := by
  apply exists_return_eq_ok
  apply exists_mapM_eq_ok
  intro type selected
  exact TypeDeclaration.compile_of_valid (valid type (List.mem_of_mem_filter selected))

/-- The indexes of valid types have names, since each type has a plan of its own. -/
theorem indexNames_of_valid (valid : ∀ type ∈ scope.types, type.validate = .ok ())
    : ∃ names, options.indexNames scope = .ok names := by
  apply exists_return_eq_ok
  apply exists_mapM_eq_ok
  intro type member
  apply exists_return_eq_ok
  apply plan_of_valid
  intro other same
  exact List.mem_singleton.mp same ▸ valid type member

-----------------------------------------------------------------------------------------
-- Bases
-----------------------------------------------------------------------------------------

/-- Resolving a base finds its direct subtypes and, if it is to be included, the base itself; by
whether it is included and registered.
-/
theorem resolveBase_eq (options : PassOptions) (scope : Scope) (base : String)
    : options.resolveBase scope base
      = if options.includeBase then
          match scope.get? base with
          | some type => .ok (scope.directSubtypes base ++ [type])
          | none => .error (.unknownType base)
        else .ok (scope.directSubtypes base) := by
  rw [resolveBase, Scope.require]
  split
  · cases scope.get? base <;> rfl
  · rfl

/-- A base is not resolved exactly if it is to be included and no type has its name. -/
theorem resolveBase_eq_error {error : Error}
    : options.resolveBase scope base = .error error
      ↔ options.includeBase = true
        ∧ (∀ type ∈ scope.types, type.typeName ≠ base)
        ∧ error = .unknownType base := by
  rw [resolveBase_eq, ← Scope.get?_eq_none_iff]
  cases included : options.includeBase with
  | false => simp
  | true => cases found : scope.get? base <;> simp [eq_comm]

/-- The types of a base are types of the scope. -/
theorem mem_of_resolveBase {types : List TypeDeclaration}
    (resolved : options.resolveBase scope base = .ok types) {type : TypeDeclaration}
    (member : type ∈ types)
    : type ∈ scope.types := by
  rw [resolveBase_eq] at resolved
  split at resolved
  · split at resolved
    case h_1 found =>
      obtain rfl := Except.ok.inj resolved
      rcases List.mem_append.mp member with subtype | last
      · exact List.mem_of_mem_filter subtype
      · exact List.mem_singleton.mp last ▸ Scope.mem_of_get? found
    case h_2 => nomatch resolved
  · obtain rfl := Except.ok.inj resolved
    exact List.mem_of_mem_filter member

end PassOptions

-----------------------------------------------------------------------------------------
-- Scopes
-----------------------------------------------------------------------------------------

namespace Scope

/-- A scope can be compiled with the given options, all of it or for a base. Only the database
can reject what is compiled, and only a base that is to be included can be missing.
-/
structure Compiles (scope : Scope) (options : PassOptions) : Prop where
  planned : ∃ operations, options.plan scope.types = .ok operations
  named : ∃ names, options.indexNames scope = .ok names
  unresolved
    : ∀ base error,
        options.resolveBase scope base = .error error
        ↔ options.includeBase = true
          ∧ (∀ type ∈ scope.types, type.typeName ≠ base)
          ∧ error = .unknownType base
  resolved
    : ∀ base types,
        options.resolveBase scope base = .ok types
        → ∃ operations, options.plan types = .ok operations
  created
    : ∀ {σ : Type} (database : Database σ) (state : σ) (error : Error),
        (database.createSchema options scope.types state).1 = .error error
        → ∃ typeName target cause, error = .rejected typeName target cause
  createdForBase
    : ∀ {σ : Type} (database : Database σ) (base : String) (state : σ) (error : Error),
        (database.createSchemaForBase options scope base state).1 = .error error
        → (∃ typeName target cause, error = .rejected typeName target cause)
          ∨ error = .unknownType base

/-- A scope whose types are valid can be compiled. -/
theorem compiles_of_valid {scope : Scope} (valid : ∀ type ∈ scope.types, type.validate = .ok ())
    (options : PassOptions)
    : scope.Compiles options := by
  have resolved {base types} (found : options.resolveBase scope base = .ok types)
      : ∃ operations, options.plan types = .ok operations :=
    PassOptions.plan_of_valid fun type member =>
      valid type (PassOptions.mem_of_resolveBase found member)
  exact {
    planned := PassOptions.plan_of_valid valid
    named := PassOptions.indexNames_of_valid valid
    unresolved := fun _ _ => PassOptions.resolveBase_eq_error
    resolved := fun _ _ => resolved
    created := by
      intro σ database state error failed
      obtain ⟨operations, planned⟩ : ∃ operations, options.plan scope.types = .ok operations :=
        PassOptions.plan_of_valid valid
      exact Database.createSchema_fails_of_plan planned failed
    createdForBase := by
      intro σ database base state error failed
      rw [Database.createSchemaForBase] at failed
      cases found : options.resolveBase scope base with
      | error unresolved =>
          rw [found] at failed
          obtain rfl := Except.error.inj failed
          exact Or.inr (PassOptions.resolveBase_eq_error.mp found).2.2
      | ok types =>
          rw [found] at failed
          obtain ⟨operations, planned⟩ := resolved found
          exact Or.inl (Database.createSchema_fails_of_plan planned failed)
  }

/-- The types of a scope that the given attempts have built. -/
structure Built (scope : Scope) (attempts : List Attempt) : Prop where
  distinct : (scope.types.map TypeDeclaration.typeName).Nodup
  valid : ∀ type ∈ scope.types, type.validate = .ok ()
  /-- The types stand in the order in which they were accepted. -/
  ordered : scope.types = attempts.filterMap Attempt.added?
  found : ∀ type ∈ scope.types, scope.get? type.typeName = some type
  /-- A further registration that is refused leaves the scope as it is. -/
  unchanged
    : ∀ registration error,
        (scope.attempt registration).1.outcome = .error error
        → (scope.attempt registration).2 = scope

/-- Registrations of any number and with any outcomes build a scope of distinct, valid types
that can be compiled with all options. Witness: the scope after the registrations, which keep it
well-formed.
-/
theorem attemptAll_compiles (registrations : List Registration)
    : ∃ attempts scope,
        attemptAll {} registrations = (attempts, scope)
        ∧ attempts.map Attempt.registration = registrations
        ∧ scope.Built attempts
        ∧ ∀ options, scope.Compiles options := by
  have wellFormed := wellFormed_empty.attemptAll registrations
  refine ⟨_, _, rfl, registration_attemptAll _ _, ?_, compiles_of_valid wellFormed.valid⟩
  exact {
    distinct := wellFormed.distinct
    valid := wellFormed.valid
    ordered := types_attemptAll {} registrations
    found := fun _ => get?_of_mem wellFormed.distinct
    unchanged := fun _ _ => attempt_refused
  }

end Scope

end Catalog
