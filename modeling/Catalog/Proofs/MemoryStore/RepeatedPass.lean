import Catalog.Proofs.MemoryStore.PassOutcome

/-! A pass that is repeated never resumes.
Whatever ends a pass, the first collection of the pass exists afterwards: it was created or it is
what the pass was refused for. The next pass over the same types stops there.
-/

namespace Catalog

namespace MemoryStore

/-- What a schedule ends with still has what there was when it was left. -/
theorem Ends.holds {store final : MemoryStore} {rest : List Scheduled}
    {result : Except Error Report} {target : Target} (ends : store.Ends rest result final)
    (held : store.Holds target)
    : final.Holds target := by
  cases ends with
  | finished report => exact held
  | uncompiled typeName error rest => exact held
  | refused typeName operation rest _ => exact holds_record.mpr held

/-- A schedule ends before a compiled operation only if its name is taken. -/
theorem Ends.held {store final : MemoryStore} {typeName : String} {operation : Operation}
    {rest : List Scheduled} {result : Except Error Report}
    (ends : store.Ends (⟨typeName, .ok operation⟩ :: rest) result final)
    : store.Holds operation.target := by
  cases ends with
  | refused typeName operation rest held => exact held

section

variable {options : PassOptions} {types others : List TypeDeclaration}
  {type : TypeDeclaration} {creation : CollectionCreation}
  (selected : options.select types = type :: others)
  (compiled : type.compileCollection = .ok creation)

include selected compiled

theorem schedule_of_selected
    : ∃ later,
        options.schedule types
        = ⟨type.typeName, .ok (.createCollection creation)⟩ :: later := by
  rw [PassOptions.schedule_eq_compilations, selected, List.flatMap_cons,
    TypeDeclaration.compilations, compiled]
  exact ⟨_, rfl⟩

/-- After a pass its first collection exists, however the pass ended. -/
theorem holds_createSchema (store : MemoryStore)
    : (database.createSchema options types store).2.Holds (.collection creation.name) := by
  obtain ⟨later, scheduled⟩ := schedule_of_selected selected compiled
  obtain ⟨before, operations, rest, split, carried, _, ends⟩ :=
    createSchema_ends options types store
  rw [scheduled] at split
  cases before with
  | nil =>
      -- Nothing was carried out, so the pass was refused because the collection existed.
      obtain rfl := List.map_eq_nil_iff.mp carried.symm
      rw [List.nil_append] at split
      subst split
      exact ends.holds ends.held
  | cons first before =>
      obtain ⟨same, _⟩ := List.cons.inj split
      subst same
      obtain ⟨operation, operations, rfl, same, _⟩ := List.map_eq_cons_iff.mp carried.symm
      obtain rfl := Except.ok.inj same
      exact ends.holds ((holds_carryOutAll _ _ _).mpr (Or.inl List.mem_cons_self))

/-- A pass whose first collection exists is refused there, before anything is carried out. -/
theorem createSchema_of_held {store : MemoryStore}
    (held : store.Holds (.collection creation.name))
    : database.createSchema options types store
      = (.error (.rejected type.typeName (.collection creation.name)
            (.alreadyExists (.collection creation.name))),
          store.record creation.toExpr) := by
  obtain ⟨later, scheduled⟩ := schedule_of_selected selected compiled
  have refused : database.execute (Operation.createCollection creation).toExpr store
      = (.error (.alreadyExists (.collection creation.name)), store.record creation.toExpr) :=
    execute_of_held held
  rw [Database.createSchema_eq_submitSchedule, scheduled,
    Database.submitSchedule_of_rejected refused]
  rfl

end

/-- After a pass over types of which the first that is not skipped has a valid collection, another
pass over them fails at its first operation, as that collection exists. This is so in every store
and however the first pass ended, and the second pass leaves nothing but its one submission.
-/
theorem createSchema_repeated {options : PassOptions} {types others : List TypeDeclaration}
    {type : TypeDeclaration} {creation : CollectionCreation}
    (selected : options.select types = type :: others)
    (compiled : type.compileCollection = .ok creation) (store : MemoryStore)
    : let left := (database.createSchema options types store).2
      database.createSchema options types left
        = (.error (.rejected type.typeName (.collection type.collection.name)
              (.alreadyExists (.collection type.collection.name))),
            left.record creation.toExpr) := by
  intro left
  have named : creation.name = type.collection.name :=
    (TypeDeclaration.compileCollection_eq_ok.mp compiled).named
  rw [← named]
  exact createSchema_of_held selected compiled (holds_createSchema selected compiled store)

/-- A pass that skips `drafts`, creates `companies` and then fails at the reserved name of another
type is not resumed: the next one is refused for `companies`.
-/
theorem createSchema_repeated_companies
    : let options : PassOptions := { skipUndeclared := true }
      let companies : TypeDeclaration :=
        { typeName := "Company", collection? := some { name := "companies" } }
      let sets : TypeDeclaration := { typeName := "Set", collection? := some { name := "sets" } }
      let types := [{ typeName := "drafts" }, companies, sets]
      let first := database.createSchema options types empty
      first.1 = .error (.invalidName .collection "sets" .reserved)
      ∧ database.createSchema options types first.2
        = (.error (.rejected "Company" (.collection "companies")
              (.alreadyExists (.collection "companies"))),
            first.2.record
              (CollectionCreation.toExpr { name := "companies", historyDays? := some 30 })) := by
  intro options companies sets types first
  have selected : options.select types = [companies, sets] := by decide
  have compiled : companies.compileCollection
      = .ok { name := "companies", historyDays? := some 30 } := by decide
  exact ⟨by decide, createSchema_repeated selected compiled empty⟩

end MemoryStore

end Catalog
