import Catalog.Database
import Catalog.Proofs.Outcome

/-! The schedule of a pass: every compilation of every type that is not left out, in order.
It is put together from the compilations themselves, neither as a plan nor as an execution is.
Planning succeeds exactly if every scheduled compilation does, and executing a pass type by
type is executing its schedule.
-/

namespace Catalog

open Outcome

/-- A compilation of an operation for the type of the given name. -/
structure Scheduled where
  typeName : String
  compilation : Except Error Operation

/-- The compilations of a pass: for each type that is not left out its collection and then its
indexes.
-/
def PassOptions.schedule (options : PassOptions) (types : List TypeDeclaration)
    : List Scheduled :=
  types.flatMap fun type =>
    if options.skips type then []
    else
      ⟨type.typeName, type.compileCollection.map .createCollection⟩
        :: type.indexes.map fun index =>
          ⟨type.typeName, (type.compileIndex index).map .createIndex⟩

/-- The schedule consists of the compilations of the types that are selected, by induction on the
types.
-/
theorem PassOptions.schedule_eq_compilations (options : PassOptions)
    (types : List TypeDeclaration)
    : options.schedule types
      = (options.select types).flatMap fun type => type.compilations.map (.mk type.typeName) := by
  induction types with
  | nil => rfl
  | cons type rest ih =>
      rw [schedule, List.flatMap_cons, ← schedule, ih]
      by_cases skipped : options.skips type = true
      · have left_out : options.select (type :: rest) = options.select rest :=
          List.filter_cons_of_neg (by simp [skipped])
        rw [if_pos skipped, left_out, List.nil_append]
      · have kept : options.select (type :: rest) = type :: options.select rest :=
          List.filter_cons_of_pos (by simp [skipped])
        rw [if_neg skipped, kept, List.flatMap_cons, TypeDeclaration.compilations, List.map_cons,
          List.map_map]
        rfl

-----------------------------------------------------------------------------------------
-- Planning
-----------------------------------------------------------------------------------------

/-- Compiling type by type is compiling all operations of the types one after another, by
induction on the types.
-/
theorem flatten_mapM_compile (types : List TypeDeclaration)
    : (return (← types.mapM TypeDeclaration.compile).flatten)
      = (types.flatMap TypeDeclaration.compilations).mapM id := by
  induction types with
  | nil => rfl
  | cons type rest ih =>
      rw [List.flatMap_cons, List.mapM_append, ← ih, List.mapM_cons]
      simp only [bind_assoc, pure_bind, List.flatten_cons]
      rfl

/-- A plan consists of the operations that are scheduled, all of which compile. -/
theorem PassOptions.plan_eq_ok (options : PassOptions) (types : List TypeDeclaration)
    (operations : List Operation)
    : options.plan types = .ok operations
      ↔ (options.schedule types).map Scheduled.compilation = operations.map .ok := by
  have compilations : (options.schedule types).map Scheduled.compilation
      = (options.select types).flatMap TypeDeclaration.compilations := by
    simp only [schedule_eq_compilations, List.map_flatMap, List.map_map, Function.comp_def,
      List.map_id']
  rw [plan, flatten_mapM_compile, compilations, mapM_eq_ok, ← List.forall₂_eq_eq_eq,
    List.forall₂_map_right_iff]
  rfl

/-- Types in another order are scheduled with the same compilations in another order. -/
theorem PassOptions.schedule_perm (options : PassOptions) {types reordered : List TypeDeclaration}
    (same : reordered.Perm types)
    : (options.schedule reordered).Perm (options.schedule types) :=
  same.flatMap_right _

/-- Types in another order have a plan of the same operations in another order. -/
theorem PassOptions.plan_perm {options : PassOptions} {types reordered : List TypeDeclaration}
    {operations : List Operation} (planned : options.plan types = .ok operations)
    (same : reordered.Perm types)
    : ∃ others, options.plan reordered = .ok others ∧ others.Perm operations := by
  obtain ⟨others, compiled, permuted⟩ :=
    exists_perm_of_map_eq ((options.plan_eq_ok types operations).mp planned)
      (options.schedule_perm same)
  exact ⟨others, (options.plan_eq_ok reordered others).mpr compiled, permuted⟩

-----------------------------------------------------------------------------------------
-- Executing
-----------------------------------------------------------------------------------------

namespace Database

variable {σ : Type}

/-- Compiles and executes one scheduled operation after another. -/
def submitSchedule (database : Database σ) : List Scheduled → Run σ Report
  | [], state => (.ok [], state)
  | ⟨_, .error error⟩ :: _, state => (.error error, state)
  | ⟨typeName, .ok operation⟩ :: rest, state =>
    match database.submit typeName operation state with
    | (.error error, state) => (.error error, state)
    | (.ok execution, state) =>
      match database.submitSchedule rest state with
      | (.error error, state) => (.error error, state)
      | (.ok report, state) => (.ok (execution :: report), state)

/-- An accepted operation is reported before those that follow it. -/
theorem submitSchedule_of_accepted {database : Database σ} {typeName : String}
    {operation : Operation} {response : Expr} {state next : σ}
    (accepted : database.execute operation.toExpr state = (.ok response, next))
    (rest : List Scheduled)
    : database.submitSchedule (⟨typeName, .ok operation⟩ :: rest) state
      = ((database.submitSchedule rest next).1.map (⟨typeName, operation, response⟩ :: ·),
          (database.submitSchedule rest next).2) := by
  simp only [submitSchedule, submit, accepted]
  rcases database.submitSchedule rest next with ⟨_ | _, _⟩ <;> rfl

/-- A rejected operation ends the schedule. -/
theorem submitSchedule_of_rejected {database : Database σ} {typeName : String}
    {operation : Operation} {cause : Error} {state next : σ}
    (rejected : database.execute operation.toExpr state = (.error cause, next))
    (rest : List Scheduled)
    : database.submitSchedule (⟨typeName, .ok operation⟩ :: rest) state
      = (.error (.rejected typeName operation.target cause), next) := by
  simp only [submitSchedule, submit, rejected]

/-- The operations of one type are executed as they are scheduled, by induction on their
compilations.
-/
theorem submitAll_eq_submitSchedule (database : Database σ) (typeName : String)
    (compilations : List (Except Error Operation)) (state : σ)
    : database.submitAll typeName compilations state
      = database.submitSchedule (compilations.map (.mk typeName)) state := by
  induction compilations generalizing state with
  | nil => rfl
  | cons compilation rest ih =>
      cases compilation with
      | error error => rfl
      | ok operation =>
          simp only [submitAll, ih]
          rfl

/-- A schedule is executed in two parts, the second one only if the first succeeds; by
induction on the first.
-/
theorem submitSchedule_append (database : Database σ) (first second : List Scheduled) (state : σ)
    : database.submitSchedule (first ++ second) state
      = match database.submitSchedule first state with
        | (.error error, state) => (.error error, state)
        | (.ok executed, state) =>
          match database.submitSchedule second state with
          | (.error error, state) => (.error error, state)
          | (.ok report, state) => (.ok (executed ++ report), state) := by
  induction first generalizing state with
  | nil =>
      simp only [List.nil_append, submitSchedule]
      rcases database.submitSchedule second state with ⟨_ | _, _⟩ <;> rfl
  | cons scheduled rest ih =>
      obtain ⟨typeName, compilation⟩ := scheduled
      cases compilation with
      | error error => rfl
      | ok operation =>
          simp only [List.cons_append, submitSchedule, ih]
          rcases database.submit typeName operation state with ⟨_ | _, next⟩
          · rfl
          · simp only
            rcases database.submitSchedule rest next with ⟨_ | _, next⟩
            · rfl
            · simp only
              rcases database.submitSchedule second next with ⟨_ | _, _⟩ <;> rfl

/-- A pass executes its schedule, by induction on the types. -/
theorem createSchema_eq_submitSchedule (database : Database σ) (options : PassOptions)
    (types : List TypeDeclaration) (state : σ)
    : database.createSchema options types state
      = database.submitSchedule (options.schedule types) state := by
  rw [createSchema, PassOptions.schedule_eq_compilations]
  induction options.select types generalizing state with
  | nil => rfl
  | cons type rest ih =>
      simp only [createTypes, submitAll_eq_submitSchedule, ih, List.flatMap_cons]
      exact (database.submitSchedule_append _ _ state).symm

end Database

end Catalog
