import Catalog.MemoryStore
import Catalog.Proofs.EntryOrder
import Catalog.Proofs.Operation.RoundTrip

/-! What executing one expression does to the memory store.
An expression is either carried out or refused; a refused one is only recorded. The names of
every store that can be reached are in order.
-/

namespace Catalog

open Outcome

namespace MemoryStore

/-- A collection or an index of the target's name exists. -/
def Holds (store : MemoryStore) : Target → Prop
  | .collection name => store.collections.contains name = true
  | .index name => store.indexes.contains name = true

/-- The collection that an operation builds on exists. -/
def HoldsSource (store : MemoryStore) : Operation → Prop
  | .createCollection _ => True
  | .createIndex creation => store.collections.contains creation.source = true

/-- Records a submission and nothing else. -/
def record (store : MemoryStore) (expr : Expr) : MemoryStore :=
  { store with submitted := store.submitted ++ [expr] }

/-- Stores what an operation creates under its name and advances the clock. -/
def carryOut (store : MemoryStore) : Operation → MemoryStore
  | .createCollection creation =>
    { store with
      collections := store.collections.insert creation.name creation
      clock := store.clock + 1 }
  | .createIndex creation =>
    { store with
      indexes := store.indexes.insert creation.name creation
      clock := store.clock + 1 }

/-- The reference to what an operation creates. -/
def reference : Operation → Expr
  | .createCollection creation => .collection creation.name
  | .createIndex creation => .index creation.name

/-- The response to an operation that is carried out. -/
def acknowledgement (store : MemoryStore) (operation : Operation) : Expr :=
  .object [
    ("name", .string operation.name),
    ("ref", reference operation),
    ("ts", .int (Int64.ofNat (store.clock + 1)))]

-----------------------------------------------------------------------------------------
-- One step
-----------------------------------------------------------------------------------------

/-- An operation whose name is new and whose source exists is carried out. -/
theorem apply_of_new {store : MemoryStore} {operation : Operation}
    (new : ¬store.Holds operation.target) (source : store.HoldsSource operation)
    : store.apply operation
      = (.ok (store.acknowledgement operation), store.carryOut operation) := by
  cases operation with
  | createCollection creation => exact if_neg new
  | createIndex creation =>
      have known : ¬(!store.collections.contains creation.source) = true := by
        simpa [HoldsSource] using source
      exact (if_neg new).trans (if_neg known)

/-- An operation whose name exists is refused, and the store stays as it is. -/
theorem apply_of_held {store : MemoryStore} {operation : Operation}
    (held : store.Holds operation.target)
    : store.apply operation = (.error (.alreadyExists operation.target), store) := by
  cases operation with
  | createCollection creation => exact if_pos held
  | createIndex creation => exact if_pos held

/-- An index with a new name but without its source is refused, and the store stays as it is. -/
theorem apply_of_orphan {store : MemoryStore} {creation : IndexCreation}
    (new : ¬store.Holds (.index creation.name))
    (orphan : ¬store.HoldsSource (.createIndex creation))
    : store.apply (.createIndex creation)
      = (.error (.notFound (.collection creation.source)), store) := by
  have missing : (!store.collections.contains creation.source) = true := by
    simpa [HoldsSource] using orphan
  exact (if_neg new).trans (if_pos missing)

/-- An expression is recorded first; what is read from it is then applied. -/
theorem execute_eq (expr : Expr) (store : MemoryStore)
    : database.execute expr store
      = match Operation.ofExpr expr with
        | .ok operation => (store.record expr).apply operation
        | .error error => (.error error, store.record expr) :=
  rfl

/-- An expression that reads as an operation with a new name and an existing source is carried
out.
-/
theorem execute_of_read {store : MemoryStore} {expr : Expr} {operation : Operation}
    (read : Operation.ofExpr expr = .ok operation) (new : ¬store.Holds operation.target)
    (source : store.HoldsSource operation)
    : database.execute expr store
      = (.ok (store.acknowledgement operation), (store.record expr).carryOut operation) := by
  rw [execute_eq, read]
  exact (apply_of_new new source : (store.record expr).apply operation = _)

/-- Executing carries an operation out or only records the expression. It is carried out if it
can be read, its name is new and its source exists; else it is refused.
-/
theorem execute_cases (expr : Expr) (store : MemoryStore)
    : (∃ operation,
        Operation.ofExpr expr = .ok operation
        ∧ ¬store.Holds operation.target
        ∧ store.HoldsSource operation
        ∧ database.execute expr store
          = (.ok (store.acknowledgement operation), (store.record expr).carryOut operation))
      ∨ ∃ error, database.execute expr store = (.error error, store.record expr) := by
  cases read : Operation.ofExpr expr with
  | error error => exact Or.inr ⟨error, by rw [execute_eq, read]⟩
  | ok operation =>
      by_cases held : store.Holds operation.target
      · refine Or.inr ⟨.alreadyExists operation.target, ?_⟩
        rw [execute_eq, read]
        exact (apply_of_held held : (store.record expr).apply operation = _)
      by_cases source : store.HoldsSource operation
      · exact Or.inl ⟨operation, rfl, held, source, execute_of_read read held source⟩
      · cases operation with
        | createCollection creation => exact (source trivial).elim
        | createIndex creation =>
            refine Or.inr ⟨.notFound (.collection creation.source), ?_⟩
            rw [execute_eq, read]
            exact (apply_of_orphan held source : (store.record expr).apply _ = _)

/-- A rejected expression is only recorded. -/
theorem execute_rejected {expr : Expr} {store : MemoryStore} {error : Error}
    (rejected : (database.execute expr store).1 = .error error)
    : (database.execute expr store).2 = store.record expr := by
  rcases execute_cases expr store with ⟨operation, _, _, _, executed⟩ | ⟨_, executed⟩
  · rw [executed] at rejected
    nomatch rejected
  · rw [executed]

/-- Every executed expression is recorded last. -/
theorem execute_submitted (expr : Expr) (store : MemoryStore)
    : (database.execute expr store).2.submitted = store.submitted ++ [expr] := by
  rcases execute_cases expr store with ⟨operation, _, _, _, executed⟩ | ⟨error, executed⟩
  · rw [executed]
    cases operation <;> rfl
  · rw [executed]
    rfl

/-- The expression of an operation with a new name and an existing source is carried out. -/
theorem execute_of_new {store : MemoryStore} {operation : Operation}
    (new : ¬store.Holds operation.target) (source : store.HoldsSource operation)
    : database.execute operation.toExpr store
      = (.ok (store.acknowledgement operation),
          (store.record operation.toExpr).carryOut operation) :=
  execute_of_read operation.ofExpr_toExpr new source

/-- The expression of an operation whose name exists is refused. -/
theorem execute_of_held {store : MemoryStore} {operation : Operation}
    (held : store.Holds operation.target)
    : database.execute operation.toExpr store
      = (.error (.alreadyExists operation.target), store.record operation.toExpr) := by
  rw [execute_eq, operation.ofExpr_toExpr]
  exact (apply_of_held held : (store.record operation.toExpr).apply operation = _)

-----------------------------------------------------------------------------------------
-- All steps
-----------------------------------------------------------------------------------------

/-- A store can be reached from the empty one by executing expressions and purging. -/
inductive Reachable : MemoryStore → Prop
  | empty : Reachable empty
  | execute (expr : Expr) {store : MemoryStore} (reachable : Reachable store)
    : Reachable (database.execute expr store).2
  | purge {store : MemoryStore} (reachable : Reachable store) : Reachable store.purge

/-- The names of collections and of indexes are in order. -/
structure Ordered (store : MemoryStore) : Prop where
  collections : store.collections.Ordered
  indexes : store.indexes.Ordered

/-- Carrying out an operation keeps names in order, by the insertion of its one entry. -/
theorem Ordered.carryOut {store : MemoryStore} (ordered : store.Ordered)
    (operation : Operation)
    : (store.carryOut operation).Ordered := by
  cases operation with
  | createCollection creation => exact ⟨ordered.collections.insert _ _, ordered.indexes⟩
  | createIndex creation => exact ⟨ordered.collections, ordered.indexes.insert _ _⟩

/-- The names of a reachable store are in order, by induction on how it is reached. -/
theorem Reachable.ordered {store : MemoryStore} (reachable : store.Reachable)
    : store.Ordered := by
  induction reachable with
  | empty => exact ⟨.nil, .nil⟩
  | @execute expr store _ ih =>
      have recorded : (store.record expr).Ordered := ⟨ih.collections, ih.indexes⟩
      rcases execute_cases expr store with ⟨operation, _, _, _, executed⟩ | ⟨error, executed⟩
      · rw [executed]
        exact recorded.carryOut operation
      · rw [executed]
        exact recorded
  | purge _ _ => exact ⟨.nil, .nil⟩

end MemoryStore

end Catalog
