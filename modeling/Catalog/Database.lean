import Catalog.Compilation
import Catalog.Operation.Expression

/-! Executing a compilation pass on a database.
A database answers one expression after another, each answer depending on the state the
earlier ones left. Operations are executed strictly in order, type by type; the first failure
ends the pass.
-/

namespace Catalog

/-- A database with states `σ`. -/
structure Database (σ : Type) where
  /-- Executes one expression and returns its response with the state afterwards. -/
  execute : Expr → σ → Except Error Expr × σ

/-- An operation that was executed for a type, with the response to it. -/
structure Execution where
  typeName : String
  operation : Operation
  response : Expr
  deriving DecidableEq

/-- The executed operations of a pass, in order. -/
abbrev Report := List Execution

namespace Report

/-- The operations of a report. -/
def operations (report : Report) : List Operation :=
  report.map Execution.operation

/-- The names of the collections created in a pass. -/
def collectionNames (report : Report) : List String :=
  (operations report).filterMap fun operation => operation.collection?.map (·.name)

/-- The names of the indexes created in a pass. -/
def indexNames (report : Report) : List String :=
  (operations report).filterMap fun operation => operation.index?.map (·.name)

end Report

namespace Database

variable {σ : Type}

/-- A computation on the database that may fail but keeps the state it has reached. -/
abbrev Run (σ α : Type) := σ → Except Error α × σ

/-- Submits an operation for a type. A refusal is reported with the type and the target. -/
def submit (database : Database σ) (typeName : String) (operation : Operation)
    : Run σ Execution := fun state =>
  match database.execute operation.toExpr state with
  | (.ok response, state) => (.ok { typeName, operation, response }, state)
  | (.error cause, state) => (.error (.rejected typeName operation.target cause), state)

/-- Compiles and executes one operation after another. -/
def submitAll (database : Database σ) (typeName : String)
    : List (Except Error Operation) → Run σ Report
  | [], state => (.ok [], state)
  | .error error :: _, state => (.error error, state)
  | .ok operation :: rest, state =>
    match database.submit typeName operation state with
    | (.error error, state) => (.error error, state)
    | (.ok execution, state) =>
      match database.submitAll typeName rest state with
      | (.error error, state) => (.error error, state)
      | (.ok report, state) => (.ok (execution :: report), state)

/-- Executes the operations of one type after another. -/
def createTypes (database : Database σ) : List TypeDeclaration → Run σ Report
  | [], state => (.ok [], state)
  | type :: rest, state =>
    match database.submitAll type.typeName type.compilations state with
    | (.error error, state) => (.error error, state)
    | (.ok executed, state) =>
      match database.createTypes rest state with
      | (.error error, state) => (.error error, state)
      | (.ok report, state) => (.ok (executed ++ report), state)

/-- Executes a pass over the given types. -/
def createSchema (database : Database σ) (options : PassOptions)
    (types : List TypeDeclaration) : Run σ Report :=
  database.createTypes (options.select types)

/-- Executes a pass over the types that belong to a base. -/
def createSchemaForBase (database : Database σ) (options : PassOptions) (scope : Scope)
    (base : String) : Run σ Report := fun state =>
  match options.resolveBase scope base with
  | .error error => (.error error, state)
  | .ok types => database.createSchema options types state

end Database

end Catalog
