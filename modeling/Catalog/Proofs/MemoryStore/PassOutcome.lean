import Catalog.Proofs.Compilation.Faults
import Catalog.Proofs.Database.SourceOrder
import Catalog.Proofs.MemoryStore.Admission

/-! How a pass ends on the memory store, and what it leaves there.
A pass is carried out up to the first operation whose name is taken. The sources of its indexes
are never missing and its operations are always understood.
-/

namespace Catalog

open Outcome

namespace MemoryStore

-----------------------------------------------------------------------------------------
-- Where a schedule ends
-----------------------------------------------------------------------------------------

/-- A schedule of which the given rest is left ends on a store: because nothing is left, or at a
compilation that fails, or at an operation whose name is taken.
-/
inductive Ends (store : MemoryStore)
  : List Scheduled → Except Error Report → MemoryStore → Prop
  | finished (report : Report) : Ends store [] (.ok report) store
  | uncompiled (typeName : String) (error : Error) (rest : List Scheduled)
    : Ends store (⟨typeName, .error error⟩ :: rest) (.error error) store
  | refused (typeName : String) (operation : Operation) (rest : List Scheduled)
    (held : store.Holds operation.target)
    : Ends store (⟨typeName, .ok operation⟩ :: rest)
        (.error (.rejected typeName operation.target (.alreadyExists operation.target)))
        (store.record operation.toExpr)

/-- Where a schedule ends does not depend on what was reported before. -/
theorem Ends.map {store final : MemoryStore} {rest : List Scheduled}
    {result : Except Error Report} (ends : store.Ends rest result final) (f : Report → Report)
    : store.Ends rest (result.map f) final := by
  cases ends with
  | finished report => exact .finished (f report)
  | uncompiled typeName error rest => exact .uncompiled typeName error rest
  | refused typeName operation rest held => exact .refused typeName operation rest held

/-- The source of a scheduled operation exists if all known collections do, and what is known
after the operation exists once it is recorded and carried out.
-/
theorem SourcesKnown.step {store : MemoryStore} {typeName : String} {operation : Operation}
    {rest : List Scheduled} {known : List String}
    (sources : SourcesKnown known (⟨typeName, .ok operation⟩ :: rest))
    (present : ∀ name ∈ known, store.Holds (.collection name))
    : store.HoldsSource operation
      ∧ ∃ later,
          SourcesKnown later rest
          ∧ ∀ name ∈ later,
              ((store.record operation.toExpr).carryOut operation).Holds
                (.collection name) := by
  cases operation with
  | createCollection creation =>
      refine ⟨trivial, _, sources, ?_⟩
      intro name member
      apply (holds_carryOut _ _ _).mpr
      rcases List.mem_cons.mp member with rfl | earlier
      · exact Or.inl rfl
      · exact Or.inr (present name earlier)
  | createIndex creation =>
      obtain ⟨source, later⟩ := sources
      exact ⟨present _ source, known, later, fun name member =>
        (holds_carryOut _ _ _).mpr (Or.inr (present name member))⟩

/-- A schedule whose sources are known is carried out for its longest part that compiles and is
admitted, and ends there; by induction on the schedule.
-/
theorem submitSchedule_ends {schedule : List Scheduled} {known : List String}
    {store : MemoryStore} (sources : SourcesKnown known schedule)
    (present : ∀ name ∈ known, store.Holds (.collection name))
    : ∃ before operations rest,
        schedule = before ++ rest
        ∧ before.map Scheduled.compilation = operations.map .ok
        ∧ store.Admits operations
        ∧ (store.carryOutAll operations).Ends rest (database.submitSchedule schedule store).1
            (database.submitSchedule schedule store).2 := by
  induction schedule generalizing known store with
  | nil => exact ⟨[], [], [], rfl, rfl, store.admits_nil, .finished []⟩
  | cons scheduled rest ih =>
      obtain ⟨typeName, compilation⟩ := scheduled
      cases compilation with
      | error error =>
          exact ⟨[], [], _, rfl, rfl, store.admits_nil, .uncompiled typeName error rest⟩
      | ok operation =>
          by_cases held : store.Holds operation.target
          · refine ⟨[], [], _, rfl, rfl, store.admits_nil, ?_⟩
            rw [Database.submitSchedule_of_rejected (execute_of_held held)]
            exact .refused typeName operation rest held
          · obtain ⟨source, later, laterSources, laterPresent⟩ := SourcesKnown.step sources present
            obtain ⟨before, operations, left, split, compiled, admitted, ends⟩ :=
              ih laterSources laterPresent
            refine ⟨⟨typeName, .ok operation⟩ :: before, operation :: operations, left,
              congrArg _ split, congrArg _ compiled, admits_cons.mpr ⟨held, admitted⟩, ?_⟩
            rw [Database.submitSchedule_of_accepted (execute_of_new held source)]
            exact ends.map _

-----------------------------------------------------------------------------------------
-- How a pass ends
-----------------------------------------------------------------------------------------

section

variable {options : PassOptions} {types : List TypeDeclaration}

/-- Every pass is carried out for an admitted part of its schedule and ends there; at its start
no collection has to be known.
-/
theorem createSchema_ends (options : PassOptions) (types : List TypeDeclaration)
    (store : MemoryStore)
    : ∃ before operations rest,
        options.schedule types = before ++ rest
        ∧ before.map Scheduled.compilation = operations.map .ok
        ∧ store.Admits operations
        ∧ (store.carryOutAll operations).Ends rest
            (database.createSchema options types store).1
            (database.createSchema options types store).2 := by
  rw [Database.createSchema_eq_submitSchedule]
  exact submitSchedule_ends (options.schedule_sourcesKnown types []) (by simp)

/-- A pass with a plan carries out all of it or all that stands before an operation whose name
is taken.
-/
theorem createSchema_of_planned {operations : List Operation}
    (planned : options.plan types = .ok operations) (store : MemoryStore)
    : store.Admits operations
        ∧ (∃ report, (database.createSchema options types store).1 = .ok report)
        ∧ (database.createSchema options types store).2 = store.carryOutAll operations
      ∨ ∃ before operation after typeName,
          operations = before ++ operation :: after
          ∧ store.Admits before
          ∧ (store.carryOutAll before).Holds operation.target
          ∧ (options.schedule types)[before.length]? = some ⟨typeName, .ok operation⟩
          ∧ database.createSchema options types store
            = (.error (.rejected typeName operation.target (.alreadyExists operation.target)),
                (store.carryOutAll before).record operation.toExpr) := by
  obtain ⟨before, carried, rest, split, compiled, admitted, ends⟩ :=
    createSchema_ends options types store
  have scheduled := (options.plan_eq_ok types operations).mp planned
  rw [split, List.map_append] at scheduled
  obtain ⟨first, second, rfl, firstCompiled, secondCompiled⟩ :=
    List.map_eq_append_iff.mp scheduled.symm
  obtain rfl : first = carried :=
    List.map_injective_iff.mpr (fun _ _ => Except.ok.inj) (firstCompiled.trans compiled)
  have length : before.length = first.length := by simpa using congrArg List.length compiled
  generalize database.createSchema options types store = pass at ends
  obtain ⟨result, final⟩ := pass
  cases ends with
  | finished report =>
      obtain rfl := List.map_eq_nil_iff.mp secondCompiled
      rw [List.append_nil]
      exact Or.inl ⟨admitted, ⟨report, rfl⟩, rfl⟩
  | uncompiled typeName error rest =>
      obtain ⟨_, _, _, impossible, _⟩ := List.map_eq_cons_iff.mp secondCompiled
      simp at impossible
  | refused typeName operation rest held =>
      obtain ⟨_, after, rfl, same, _⟩ := List.map_eq_cons_iff.mp secondCompiled
      obtain rfl := Except.ok.inj same
      refine Or.inr ⟨first, _, after, typeName, rfl, admitted, held, ?_, rfl⟩
      rw [split, ← length, List.getElem?_append_right le_rfl, Nat.sub_self]
      rfl

/-- An operation whose name is taken after those before it are carried out keeps the whole from
being admitted.
-/
theorem not_admits_of_held {store : MemoryStore} {before after : List Operation}
    {operation : Operation} (held : (store.carryOutAll before).Holds operation.target)
    : ¬store.Admits (before ++ operation :: after) := by
  intro admitted
  exact (admits_cons.mp (admits_append.mp admitted).2).1 held

/-- A pass whose plan is admitted succeeds and carries all of it out. -/
theorem createSchema_of_admitted {store : MemoryStore} {operations : List Operation}
    (planned : options.plan types = .ok operations) (admitted : store.Admits operations)
    : (∃ report, (database.createSchema options types store).1 = .ok report)
      ∧ (database.createSchema options types store).2 = store.carryOutAll operations := by
  rcases createSchema_of_planned planned store with
    ⟨_, succeeded⟩ | ⟨before, operation, after, _, rfl, _, held, _⟩
  · exact succeeded
  · exact (not_admits_of_held held admitted).elim

/-- Whatever ends a pass on the memory store is in a declaration or is a name that is taken. -/
theorem createSchema_fails (options : PassOptions) (types : List TypeDeclaration)
    (store : MemoryStore) {error : Error}
    (failed : (database.createSchema options types store).1 = .error error)
    : error.InDeclaration
      ∨ ∃ typeName target, error = .rejected typeName target (.alreadyExists target) := by
  obtain ⟨before, carried, rest, split, _, _, ends⟩ := createSchema_ends options types store
  rw [failed] at ends
  generalize (database.createSchema options types store).2 = final at ends
  cases ends with
  | uncompiled typeName error rest =>
      have member : ⟨typeName, .error error⟩ ∈ options.schedule types := by
        rw [split]
        exact List.mem_append_right _ List.mem_cons_self
      rw [PassOptions.schedule_eq_compilations] at member
      obtain ⟨type, _, scheduled⟩ := List.mem_flatMap.mp member
      obtain ⟨compilation, compiled, same⟩ := List.mem_map.mp scheduled
      obtain ⟨_, rfl⟩ := Scheduled.mk.inj same
      exact Or.inl (type.compilations_fail compiled error rfl)
  | refused typeName operation rest held => exact Or.inr ⟨typeName, operation.target, rfl⟩

end

/-- How a pass with the given plan ends on a store. -/
structure PassOutcome (store : MemoryStore) (options : PassOptions)
    (types : List TypeDeclaration) (operations : List Operation)
    (result : Except Error Report) (final : MemoryStore)
    : Prop where
  /-- It succeeds exactly if the names of the plan are new and distinct. -/
  success : (∃ report, result = .ok report) ↔ store.Admits operations
  /-- A success leaves what there was and what the plan creates. -/
  stored : store.Admits operations → store.Extends operations final
  /-- The types in another order leave the same collections and indexes. -/
  reordered
    : store.Admits operations
      → ∀ others : List TypeDeclaration,
          others.Perm types
          → (∃ report, (database.createSchema options others store).1 = .ok report)
            ∧ (database.createSchema options others store).2.collections = final.collections
            ∧ (database.createSchema options others store).2.indexes = final.indexes
  /-- Otherwise it stops at the first operation whose name is taken, in the store or by an
  earlier operation, and leaves what the operations before it create.
  -/
  stopped
    : ¬store.Admits operations
      → ∃ before operation after typeName,
          operations = before ++ operation :: after
          ∧ store.Admits before
          ∧ (operation.target ∈ before.map Operation.target ∨ store.Holds operation.target)
          ∧ (options.schedule types)[before.length]? = some ⟨typeName, .ok operation⟩
          ∧ result
            = .error (.rejected typeName operation.target (.alreadyExists operation.target))
          ∧ store.Extends before final

/-- On a store that can be reached, the outcome of a pass with a plan is that of its names, and
no pass fails for a missing source or an expression that is not understood.
Witness: the admitted part of the plan and what carrying it out leaves.
-/
theorem createSchema_outcome {store : MemoryStore} (reachable : store.Reachable)
    (options : PassOptions) (types : List TypeDeclaration)
    : (∀ operations,
        options.plan types = .ok operations
        → PassOutcome store options types operations
            (database.createSchema options types store).1
            (database.createSchema options types store).2)
      ∧ ∀ error,
          (database.createSchema options types store).1 = .error error
          → error.InDeclaration
            ∨ ∃ typeName target, error = .rejected typeName target (.alreadyExists target) := by
  refine ⟨fun operations planned => ?_, fun error => createSchema_fails options types store⟩
  exact {
    success := by
      rcases createSchema_of_planned planned store with
        ⟨admitted, succeeded, _⟩ | ⟨before, operation, after, _, rfl, _, held, _, refused⟩
      · exact iff_of_true succeeded admitted
      · rw [refused]
        exact iff_of_false (fun ⟨_, impossible⟩ => nomatch impossible) (not_admits_of_held held)
    stored := by
      intro admitted
      rw [(createSchema_of_admitted planned admitted).2]
      exact admitted.extends_carryOutAll
    reordered := by
      intro admitted others same
      obtain ⟨permuted, permutedPlanned, permutation⟩ := PassOptions.plan_perm planned same
      have permutedAdmitted := admitted.perm permutation
      obtain ⟨succeeded, left⟩ := createSchema_of_admitted permutedPlanned permutedAdmitted
      rw [(createSchema_of_admitted planned admitted).2, left]
      refine ⟨succeeded, ?_⟩
      exact admitted.extends_carryOutAll.unique permutedAdmitted.extends_carryOutAll permutation
        (reachable.ordered.carryOutAll _) (reachable.ordered.carryOutAll _)
    stopped := by
      intro conflict
      rcases createSchema_of_planned planned store with
        ⟨admitted, _⟩ | ⟨before, operation, after, typeName, split, admitted, held, place, refused⟩
      · exact (conflict admitted).elim
      · rw [refused]
        exact ⟨before, operation, after, typeName, split, admitted,
          (holds_carryOutAll _ _ _).mp held, place, rfl, admitted.extends_carryOutAll.record _⟩
  }

/-- In a store with the collection `people`, a pass over `companies` succeeds and a pass that
also declares `people` does not.
-/
theorem createSchema_outcome_people
    : let store := (database.execute (Operation.createCollection { name := "people" }).toExpr
        empty).2
      (∃ report,
        (database.createSchema {} [{ typeName := "companies" }] store).1 = .ok report)
      ∧ ¬∃ report,
          (database.createSchema {} [{ typeName := "companies" }, { typeName := "people" }]
            store).1 = .ok report := by
  intro store
  have reachable : store.Reachable := .execute _ .empty
  let companies : CollectionCreation := { name := "companies", historyDays? := some 30 }
  let people : CollectionCreation := { name := "people", historyDays? := some 30 }
  constructor
  · have planned : PassOptions.plan {} [{ typeName := "companies" }]
        = .ok [.createCollection companies] := rfl
    apply ((createSchema_outcome reachable {} _).1 _ planned).success.mpr
    exact ⟨⟨by decide, by decide⟩, ⟨by decide, by decide⟩⟩
  · intro succeeded
    have planned : PassOptions.plan {} [{ typeName := "companies" }, { typeName := "people" }]
        = .ok [.createCollection companies, .createCollection people] := rfl
    have admitted := ((createSchema_outcome reachable {} _).1 _ planned).success.mp succeeded
    have new : store.collections.find? people.name = none :=
      admitted.collections.new people (by decide)
    exact absurd new (by decide)

end MemoryStore

end Catalog
