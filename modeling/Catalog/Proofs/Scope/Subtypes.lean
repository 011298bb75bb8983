import Catalog.MemoryStore
import Catalog.Proofs.Scope.Compilation

/-! The types that a pass compiles for a base.
They are the direct subtypes of the base, and the base itself where it is included. A type whose
base has its own name is both, and then it is listed twice; in all other cases the types are
distinct.
-/

namespace Catalog

namespace PassOptions

variable {options : PassOptions} {scope : Scope} {base : String}

/-- The base itself is listed after its subtypes, if it is to be included. -/
def includedBase (options : PassOptions) (scope : Scope) (base : String)
    : List TypeDeclaration :=
  if options.includeBase then (scope.get? base).toList else []

/-- A resolved base is listed after its direct subtypes, by whether it is included. -/
theorem types_of_resolveBase {types : List TypeDeclaration}
    (resolved : options.resolveBase scope base = .ok types)
    : types = scope.directSubtypes base ++ options.includedBase scope base := by
  rw [resolveBase_eq] at resolved
  rw [includedBase]
  split at resolved
  case isTrue included =>
    rw [if_pos included]
    split at resolved
    case h_1 found =>
      rw [found]
      exact (Except.ok.inj resolved).symm
    case h_2 => nomatch resolved
  case isFalse excluded =>
    rw [if_neg excluded, List.append_nil]
    exact (Except.ok.inj resolved).symm

/-- An included base that is resolved is the registered type of that name. -/
theorem includedBase_of_resolveBase {types : List TypeDeclaration}
    (resolved : options.resolveBase scope base = .ok types)
    (included : options.includeBase = true)
    : ∃ type, scope.get? base = some type ∧ options.includedBase scope base = [type] := by
  rw [resolveBase_eq, if_pos included] at resolved
  rw [includedBase, if_pos included]
  cases found : scope.get? base with
  | some type => exact ⟨type, rfl, rfl⟩
  | none =>
      rw [found] at resolved
      nomatch resolved

/-- A base that is listed has the name of the base. -/
theorem mem_includedBase {type : TypeDeclaration}
    (listed : type ∈ options.includedBase scope base)
    : type ∈ scope.types ∧ type.typeName = base := by
  rw [includedBase] at listed
  split at listed
  · have found : scope.get? base = some type := Option.mem_toList.mp listed
    exact ⟨Scope.mem_of_get? found, by simpa using List.find?_some found⟩
  · nomatch listed

/-- Subtypes and the base after them are distinct unless the base is one of its own subtypes,
as types of a scope have distinct names.
-/
theorem nodup_subtypes_includedBase (distinct : (scope.types.map TypeDeclaration.typeName).Nodup)
    : ((scope.directSubtypes base ++ options.includedBase scope base).map
          TypeDeclaration.typeName).Nodup
      ↔ ∀ type ∈ options.includedBase scope base, type.base? ≠ some base := by
  rw [List.map_append, List.nodup_append]
  constructor
  · rintro ⟨_, _, apart⟩ type listed itself
    have subtype : type ∈ scope.directSubtypes base :=
      List.mem_filter.mpr ⟨(mem_includedBase listed).1, decide_eq_true itself⟩
    exact apart _ (List.mem_map_of_mem subtype) _ (List.mem_map_of_mem listed) rfl
  · intro other
    refine ⟨?_, ?_, ?_⟩
    · exact distinct.sublist (List.filter_sublist.map _)
    · rw [includedBase]
      split
      · cases scope.get? base <;> simp
      · exact .nil
    · rintro _ earlier _ last rfl
      obtain ⟨subtype, member, named⟩ := List.mem_map.mp earlier
      obtain ⟨type, listed, same⟩ := List.mem_map.mp last
      obtain ⟨registered, derives⟩ := List.mem_filter.mp member
      -- Of two registered types with one name there is only one.
      obtain rfl := List.inj_on_of_nodup_map distinct registered (mem_includedBase listed).1
        (named.trans same.symm)
      exact other subtype listed (of_decide_eq_true derives)

end PassOptions

namespace Scope

/-- For a base that is resolved in a scope built by registrations, the types are those that
derive from it, in the order of their registration, and then the base itself if it is included.
No name occurs twice among them exactly if an included base does not derive from itself.
Witness: the included base as the last part of the list.
-/
theorem resolveBase_of_registrations {registrations : List Registration}
    {attempts : List Attempt} {scope : Scope}
    (built : attemptAll {} registrations = (attempts, scope)) {options : PassOptions}
    {base : String} {types : List TypeDeclaration}
    (resolved : options.resolveBase scope base = .ok types)
    : ∃ last,
        types = (attempts.filterMap Attempt.added?).filter (·.base? = some base) ++ last
        ∧ (options.includeBase = false → last = [])
        ∧ (options.includeBase = true
          → ∃ type ∈ attempts.filterMap Attempt.added?, type.typeName = base ∧ last = [type])
        ∧ ((types.map TypeDeclaration.typeName).Nodup
          ↔ ∀ type ∈ last, type.base? ≠ some base) := by
  have ordered : scope.types = attempts.filterMap Attempt.added? := by
    have added := types_attemptAll {} registrations
    rw [built] at added
    exact added
  have distinct := (wellFormed_empty.attemptAll registrations).distinct
  rw [built] at distinct
  have listed := PassOptions.types_of_resolveBase resolved
  refine ⟨options.includedBase scope base, ?_, ?_, ?_, ?_⟩
  · rw [listed, directSubtypes, ordered]
  · intro excluded
    rw [PassOptions.includedBase, if_neg (by simp [excluded])]
  · intro included
    obtain ⟨type, found, last⟩ := PassOptions.includedBase_of_resolveBase resolved included
    have member : type ∈ options.includedBase scope base := last ▸ List.mem_singleton_self type
    obtain ⟨registered, named⟩ := PassOptions.mem_includedBase member
    exact ⟨type, ordered ▸ registered, named, last⟩
  · rw [listed]
    exact PassOptions.nodup_subtypes_includedBase distinct

/-- With the base included, `Person` and `Company` are compiled before `Entity`, all of them
once, as `Entity` does not derive from itself.
-/
theorem resolveBase_of_registrations_entity
    : let entity : TypeDeclaration := { typeName := "Entity" }
      let person : TypeDeclaration := { typeName := "Person", base? := some "Entity" }
      let employee : TypeDeclaration := { typeName := "Employee", base? := some "Person" }
      let company : TypeDeclaration := { typeName := "Company", base? := some "Entity" }
      let registrations := [entity, person, employee, person, company].map Registration.insert
      PassOptions.resolveBase { includeBase := true } (attemptAll {} registrations).2 "Entity"
        = .ok [person, company, entity]
      ∧ ([person, company, entity].map TypeDeclaration.typeName).Nodup := by
  intro entity person employee company registrations
  have resolved : PassOptions.resolveBase { includeBase := true }
      (attemptAll {} registrations).2 "Entity" = .ok [person, company, entity] := by decide
  obtain ⟨last, listed, _, included, distinct⟩ := resolveBase_of_registrations rfl resolved
  refine ⟨resolved, distinct.mpr ?_⟩
  obtain ⟨base, _, _, rfl⟩ := included rfl
  have same : entity = base := by simpa using congrArg List.getLast? listed
  intro type member
  obtain rfl := List.mem_singleton.mp member
  subst same
  decide

/-- A type may be registered with its own name as its base. With the base included it is then
listed twice, and the database rejects the second of its collections.
-/
theorem resolveBase_own_base
    : let node : TypeDeclaration := { typeName := "Node", base? := some "Node" }
      let options : PassOptions := { includeBase := true }
      let (attempts, scope) := attemptAll {} [.insert node]
      attempts.filterMap Attempt.added? = [node]
      ∧ options.resolveBase scope "Node" = .ok [node, node]
      ∧ ¬([node, node].map TypeDeclaration.typeName).Nodup
      ∧ (MemoryStore.database.createSchemaForBase options scope "Node" .empty).1
        = .error (.rejected "Node" (.collection "Node") (.alreadyExists (.collection "Node"))) := by
  decide

end Scope

end Catalog
