import Catalog.Proofs.Scope.Compilation

/-! The listing of index names agrees with what is compiled.
Names are listed type by type, while a pass is planned and executed as one schedule. Both find the
same indexes in the same order, each with the type that declares it. A pass that skips types
without a collection is one over the other types.
-/

namespace Catalog

open Outcome

/-- The name of the index that an operation creates. -/
def Operation.indexName? : Operation → Option String
  | createCollection _ => none
  | createIndex creation => some creation.name

/-- The index that a compilation creates, listed with the name of its type. -/
def Scheduled.listing? : Scheduled → Option (String × String)
  | ⟨_, .error _⟩ => none
  | ⟨typeName, .ok operation⟩ => operation.indexName?.map (typeName, ·)

/-- The index that was created by an execution, listed with the name of its type. -/
def Execution.listing? (execution : Execution) : Option (String × String) :=
  execution.operation.indexName?.map (execution.typeName, ·)

/-- An operation that creates an index creates one with that name. -/
theorem Operation.index?_map_name {α : Type} (operation : Operation) (listed : String → α)
    : operation.index?.map (fun creation => listed creation.name)
      = operation.indexName?.map listed := by
  cases operation <;> rfl

-----------------------------------------------------------------------------------------
-- Listing a schedule
-----------------------------------------------------------------------------------------

namespace PassOptions

variable {options : PassOptions}

/-- The operations of a single type are scheduled under its name. -/
theorem schedule_of_plan {type : TypeDeclaration} {operations : List Operation}
    (planned : options.plan [type] = .ok operations)
    : options.schedule [type] = operations.map fun operation => ⟨type.typeName, .ok operation⟩ := by
  have compiled := (options.plan_eq_ok [type] operations).mp planned
  rw [schedule, List.flatMap_singleton] at compiled ⊢
  by_cases skipped : options.skips type = true
  · rw [if_pos skipped] at compiled ⊢
    rw [List.map_eq_nil_iff.mp compiled.symm, List.map_nil]
  · rw [if_neg skipped] at compiled ⊢
    calc _
      _ = (operations.map Except.ok).map (Scheduled.mk type.typeName) := by
        rw [← compiled, List.map_cons, List.map_cons, List.map_map, List.map_map]
        rfl
      _ = operations.map fun operation => ⟨type.typeName, .ok operation⟩ := List.map_map

/-- The schedule of several types consists of the schedules of each of them. -/
theorem schedule_eq_flatMap (options : PassOptions) (types : List TypeDeclaration)
    : options.schedule types = types.flatMap fun type => options.schedule [type] := by
  simp only [schedule, List.flatMap_singleton]

/-- The names listed for valid types are those of the indexes that are scheduled, since each of
the types has a plan of its own.
-/
theorem indexNames_eq_schedule {scope : Scope}
    (valid : ∀ type ∈ scope.types, type.validate = .ok ())
    : options.indexNames scope
      = .ok ((options.schedule scope.types).filterMap Scheduled.listing?) := by
  have listed : List.Forall₂
      (fun type names =>
        (return (← options.plan [type]).filterMap fun operation =>
          operation.index?.map fun creation => (type.typeName, creation.name)) = Except.ok names)
      scope.types
      (scope.types.map fun type => (options.schedule [type]).filterMap Scheduled.listing?) := by
    rw [List.forall₂_map_right_iff, List.forall₂_same]
    intro type member
    obtain ⟨operations, planned⟩ : ∃ operations, options.plan [type] = .ok operations :=
      plan_of_valid fun other same => List.mem_singleton.mp same ▸ valid type member
    rw [planned, schedule_of_plan planned, List.filterMap_map]
    simp only [Operation.index?_map_name]
    rfl
  rw [indexNames, mapM_eq_ok.mpr listed, ok_bind, schedule_eq_flatMap, List.filterMap_flatMap,
    List.flatMap_def]
  rfl

/-- The listing of a schedule names the indexes of its plan, in order. -/
theorem listing_of_plan {types : List TypeDeclaration} {operations : List Operation}
    (planned : options.plan types = .ok operations)
    : ((options.schedule types).filterMap Scheduled.listing?).map Prod.snd
      = operations.filterMap Operation.indexName? := by
  let name? (compilation : Except Error Operation) : Option String :=
    compilation.toOption.bind Operation.indexName?
  have named : ∀ scheduled, Option.map Prod.snd (Scheduled.listing? scheduled)
      = name? scheduled.compilation := by
    rintro ⟨typeName, error | operation⟩
    · rfl
    · cases operation <;> rfl
  calc ((options.schedule types).filterMap Scheduled.listing?).map Prod.snd
    _ = ((options.schedule types).map Scheduled.compilation).filterMap name? := by
      rw [List.map_filterMap, List.filterMap_map]
      exact congrArg₂ _ (funext named) rfl
    _ = (operations.map Except.ok).filterMap name? := by
      rw [(options.plan_eq_ok types operations).mp planned]
    _ = operations.filterMap Operation.indexName? := by
      rw [List.filterMap_map]
      rfl

end PassOptions

/-- The listing of a pass that succeeds is that of its report, since it executes the schedule. -/
theorem Database.listing_of_report {σ : Type} {database : Database σ} {options : PassOptions}
    {types : List TypeDeclaration} {state : σ} {report : Report}
    (succeeded : (database.createSchema options types state).1 = .ok report)
    : (options.schedule types).filterMap Scheduled.listing?
      = report.filterMap Execution.listing? := by
  obtain ⟨log, trace, _⟩ := database.submitSchedule_trace (options.schedule types) state
  rw [← createSchema_eq_submitSchedule, succeeded] at trace
  rw [(trace.reported rfl).1, List.filterMap_map]
  rfl

-----------------------------------------------------------------------------------------
-- Types without a collection
-----------------------------------------------------------------------------------------

/-- The types that declare a collection. -/
def Scope.declared (scope : Scope) : Scope :=
  ⟨scope.types.filter (·.collection?.isSome)⟩

namespace PassOptions

/-- The same options, with types that do not declare a collection left out or not. -/
def skipping (options : PassOptions) (skipUndeclared : Bool) : PassOptions :=
  { options with skipUndeclared }

/-- Skipping types without a collection selects the types that have one. -/
theorem select_skipping (options : PassOptions) (scope : Scope)
    : (options.skipping true).select scope.types
      = (options.skipping false).select scope.declared.types := by
  simp [select, skips, skipping, Scope.declared]

/-- A pass that skips types without a collection has the plan of the types that have one. -/
theorem plan_skipping (options : PassOptions) (scope : Scope)
    : (options.skipping true).plan scope.types
      = (options.skipping false).plan scope.declared.types := by
  rw [plan, plan, select_skipping]

/-- A pass that skips types without a collection lists the indexes of the types that have one: it
plans nothing for the others.
-/
theorem indexNames_skipping (options : PassOptions) (scope : Scope)
    : (options.skipping true).indexNames scope
      = (options.skipping false).indexNames scope.declared := by
  refine mapM_flatten_filter (fun type declared => ?_) (fun type undeclared => ?_) scope.types
  · have kept : Scope.declared ⟨[type]⟩ = ⟨[type]⟩ := by simp [Scope.declared, declared]
    rw [options.plan_skipping ⟨[type]⟩, kept]
  · have dropped : Scope.declared ⟨[type]⟩ = ⟨[]⟩ := by simp [Scope.declared, undeclared]
    rw [options.plan_skipping ⟨[type]⟩, dropped]
    rfl

end PassOptions

namespace Scope

/-- The names of indexes that are listed for a scope: those of its plan, each with the type that
declares the index, and those of the report of any pass over the scope that succeeds.
-/
structure ListsIndexes (scope : Scope) (options : PassOptions) (names : List (String × String))
    (operations : List Operation)
    : Prop where
  /-- The plan consists of the operations that are scheduled for the types. -/
  planned : (options.schedule scope.types).map Scheduled.compilation = operations.map .ok
  /-- Each scheduled index is listed once, with the type that it is scheduled for. -/
  scheduled : names = (options.schedule scope.types).filterMap Scheduled.listing?
  /-- The names that are listed are those of the planned indexes. -/
  named
    : names.map Prod.snd = operations.filterMap Operation.indexName?
  reported
    : ∀ {σ : Type} (database : Database σ) (state : σ) (report : Report),
        (database.createSchema options scope.types state).1 = .ok report
        → names = report.filterMap Execution.listing?
          ∧ names.map Prod.snd = report.indexNames

/-- For a scope built by registrations the listing of index names agrees with the plan and with
the report of every pass that succeeds, whatever the options and the database. Skipping the types
without a collection is the same as leaving them out: the plan, the listing, and the result and
state that a pass ends with are those of the types that have one.
-/
theorem indexNames_agree (registrations : List Registration) (options : PassOptions)
    : let scope := (attemptAll {} registrations).2
      (∃ names operations,
        options.indexNames scope = .ok names
        ∧ options.plan scope.types = .ok operations
        ∧ scope.ListsIndexes options names operations)
      ∧ (options.skipping true).plan scope.types
        = (options.skipping false).plan scope.declared.types
      ∧ (options.skipping true).indexNames scope
        = (options.skipping false).indexNames scope.declared
      ∧ ∀ {σ : Type} (database : Database σ) (state : σ),
          database.createSchema (options.skipping true) scope.types state
          = database.createSchema (options.skipping false) scope.declared.types state := by
  intro scope
  have valid := (wellFormed_empty.attemptAll registrations).valid
  obtain ⟨operations, planned⟩ : ∃ operations, options.plan scope.types = .ok operations :=
    PassOptions.plan_of_valid valid
  refine ⟨⟨_, operations, PassOptions.indexNames_eq_schedule valid, planned, ?_⟩,
    options.plan_skipping scope, options.indexNames_skipping scope, ?_⟩
  · exact {
      planned := (options.plan_eq_ok _ _).mp planned
      scheduled := rfl
      named := PassOptions.listing_of_plan planned
      reported := by
        intro σ database state report succeeded
        have listed := Database.listing_of_report succeeded
        refine ⟨listed, ?_⟩
        rw [listed, List.map_filterMap, Report.indexNames, Report.operations, List.filterMap_map]
        refine congrArg₂ _ (funext fun execution => ?_) rfl
        obtain ⟨_, _ | _, _⟩ := execution <;> rfl
    }
  · intro σ database state
    rw [Database.createSchema, Database.createSchema, PassOptions.select_skipping]

end Scope

end Catalog
