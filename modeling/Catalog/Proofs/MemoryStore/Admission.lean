import Catalog.Proofs.MemoryStore.Execution

/-! Which operations a store admits, and what they add to it.
Operations are admitted together if their names are new and distinct, collections and indexes
apart. What they add does not depend on their order.
-/

namespace Catalog

-----------------------------------------------------------------------------------------
-- What operations create
-----------------------------------------------------------------------------------------

/-- The collections that operations create, in order. -/
def createdCollections (operations : List Operation) : List CollectionCreation :=
  operations.filterMap Operation.collection?

/-- The indexes that operations create, in order. -/
def createdIndexes (operations : List Operation) : List IndexCreation :=
  operations.filterMap Operation.index?

section

variable (rest : List Operation)

@[simp] theorem createdCollections_cons_collection (creation : CollectionCreation)
    : createdCollections (.createCollection creation :: rest)
      = creation :: createdCollections rest :=
  rfl

@[simp] theorem createdCollections_cons_index (creation : IndexCreation)
    : createdCollections (.createIndex creation :: rest) = createdCollections rest :=
  rfl

@[simp] theorem createdIndexes_cons_collection (creation : CollectionCreation)
    : createdIndexes (.createCollection creation :: rest) = createdIndexes rest :=
  rfl

@[simp] theorem createdIndexes_cons_index (creation : IndexCreation)
    : createdIndexes (.createIndex creation :: rest) = creation :: createdIndexes rest :=
  rfl

end

namespace MemoryStore

/-- Records and carries out operations one after another. -/
def carryOutAll (store : MemoryStore) (operations : List Operation) : MemoryStore :=
  operations.foldl (fun store operation => (store.record operation.toExpr).carryOut operation)
    store

theorem carryOutAll_cons (store : MemoryStore) (operation : Operation) (rest : List Operation)
    : store.carryOutAll (operation :: rest)
      = ((store.record operation.toExpr).carryOut operation).carryOutAll rest :=
  rfl

/-- All that operations add to a store: what they create, their submissions and one tick of the
clock for each; by induction on the operations.
-/
theorem carryOutAll_eq (store : MemoryStore) (operations : List Operation)
    : store.carryOutAll operations
      = {
          collections :=
            Entries.insertAll CollectionCreation.name (createdCollections operations)
              store.collections
          indexes :=
            Entries.insertAll IndexCreation.name (createdIndexes operations) store.indexes
          submitted := store.submitted ++ operations.map Operation.toExpr
          clock := store.clock + operations.length
        } := by
  induction operations generalizing store with
  | nil => simp [carryOutAll, createdCollections, createdIndexes, Entries.insertAll]
  | cons operation rest ih =>
      rw [carryOutAll_cons, ih]
      cases operation with
      | createCollection creation =>
          simp [record, carryOut, Entries.insertAll, Nat.add_assoc, Nat.add_comm 1]
      | createIndex creation =>
          simp [record, carryOut, Entries.insertAll, Nat.add_assoc, Nat.add_comm 1]

theorem carryOut_record (store : MemoryStore) (expr : Expr) (operation : Operation)
    : (store.record expr).carryOut operation = (store.carryOut operation).record expr := by
  cases operation <;> rfl

/-- A submission that is recorded before operations are carried out stands before theirs, and
nothing else depends on it.
-/
theorem carryOutAll_record (store : MemoryStore) (expr : Expr) (operations : List Operation)
    : (store.record expr).carryOutAll operations
      = { store.carryOutAll operations with
          submitted := store.submitted ++ expr :: operations.map Operation.toExpr } := by
  simp [carryOutAll_eq, record]

/-- A carried out operation adds its own target to those that exist. -/
theorem holds_carryOut (store : MemoryStore) (operation : Operation) (target : Target)
    : (store.carryOut operation).Holds target
      ↔ target = operation.target ∨ store.Holds target := by
  cases operation <;> cases target <;>
    simp [carryOut, Holds, Operation.target, Entries.contains_insert]

/-- Recording a submission changes nothing that exists. -/
theorem holds_record {store : MemoryStore} {expr : Expr} {target : Target}
    : (store.record expr).Holds target ↔ store.Holds target := by
  cases target <;> rfl

/-- Carried out operations add their targets to those that exist, by induction on the
operations.
-/
theorem holds_carryOutAll (store : MemoryStore) (operations : List Operation) (target : Target)
    : (store.carryOutAll operations).Holds target
      ↔ target ∈ operations.map Operation.target ∨ store.Holds target := by
  induction operations generalizing store with
  | nil => simp [carryOutAll]
  | cons operation rest ih =>
      rw [carryOutAll_cons, ih, holds_carryOut, holds_record, List.map_cons, List.mem_cons]
      exact or_left_comm.trans or_assoc.symm

-----------------------------------------------------------------------------------------
-- Admitted operations
-----------------------------------------------------------------------------------------

/-- The names of the collections that operations create are new to a store and pairwise
distinct, and so are the names of the indexes.
-/
structure Admits (store : MemoryStore) (operations : List Operation) : Prop where
  collections
    : Entries.Fresh CollectionCreation.name (createdCollections operations) store.collections
  indexes : Entries.Fresh IndexCreation.name (createdIndexes operations) store.indexes

/-- Nothing is always admitted. -/
theorem admits_nil (store : MemoryStore) : store.Admits [] :=
  ⟨Entries.fresh_nil _ _, Entries.fresh_nil _ _⟩

/-- Operations are admitted if the first one is new and the others are admitted after it. -/
theorem admits_cons {store : MemoryStore} {operation : Operation} {rest : List Operation}
    : store.Admits (operation :: rest)
      ↔ ¬store.Holds operation.target
        ∧ ((store.record operation.toExpr).carryOut operation).Admits rest := by
  cases operation with
  | createCollection creation =>
      constructor
      · rintro ⟨collections, indexes⟩
        obtain ⟨new, later⟩ := Entries.fresh_cons.mp collections
        exact ⟨new, later, indexes⟩
      · rintro ⟨new, later, indexes⟩
        exact ⟨Entries.fresh_cons.mpr ⟨new, later⟩, indexes⟩
  | createIndex creation =>
      constructor
      · rintro ⟨collections, indexes⟩
        obtain ⟨new, later⟩ := Entries.fresh_cons.mp indexes
        exact ⟨new, collections, later⟩
      · rintro ⟨new, collections, later⟩
        exact ⟨collections, Entries.fresh_cons.mpr ⟨new, later⟩⟩

/-- Operations are admitted in two parts, the second one after the first is carried out; by
induction on the first.
-/
theorem admits_append {store : MemoryStore} {first second : List Operation}
    : store.Admits (first ++ second)
      ↔ store.Admits first ∧ (store.carryOutAll first).Admits second := by
  induction first generalizing store with
  | nil => exact (and_iff_right store.admits_nil).symm
  | cons operation rest ih =>
      rw [List.cons_append, admits_cons, admits_cons, ih, and_assoc]
      rfl

/-- Whether operations are admitted does not depend on their order. -/
theorem Admits.perm {store : MemoryStore} {operations others : List Operation}
    (admitted : store.Admits operations) (same : others.Perm operations)
    : store.Admits others :=
  ⟨admitted.collections.perm (same.filterMap _), admitted.indexes.perm (same.filterMap _)⟩

-----------------------------------------------------------------------------------------
-- What admitted operations leave
-----------------------------------------------------------------------------------------

/-- A final store has what a store had and what operations create, each under its own name, and
nothing else. Its clock has advanced once for each operation.
-/
structure Extends (store : MemoryStore) (operations : List Operation) (final : MemoryStore)
    : Prop where
  collections
    : ∀ name creation,
        final.collections.find? name = some creation
        ↔ creation ∈ createdCollections operations ∧ creation.name = name
          ∨ store.collections.find? name = some creation
  indexes
    : ∀ name creation,
        final.indexes.find? name = some creation
        ↔ creation ∈ createdIndexes operations ∧ creation.name = name
          ∨ store.indexes.find? name = some creation
  clock : final.clock = store.clock + operations.length

/-- Admitted operations extend a store by exactly what they create. -/
theorem Admits.extends_carryOutAll {store : MemoryStore} {operations : List Operation}
    (admitted : store.Admits operations)
    : store.Extends operations (store.carryOutAll operations) := by
  rw [carryOutAll_eq]
  exact {
    collections := admitted.collections.find?_insertAll
    indexes := admitted.indexes.find?_insertAll
    clock := rfl
  }

/-- A submission that is only recorded changes nothing that extends a store. -/
theorem Extends.record {store final : MemoryStore} {operations : List Operation}
    (extended : store.Extends operations final) (expr : Expr)
    : store.Extends operations (final.record expr) :=
  ⟨extended.collections, extended.indexes, extended.clock⟩

/-- Carried out operations leave names in order. -/
theorem Ordered.carryOutAll {store : MemoryStore} (ordered : store.Ordered)
    (operations : List Operation)
    : (store.carryOutAll operations).Ordered := by
  rw [carryOutAll_eq]
  exact ⟨ordered.collections.insertAll _ _, ordered.indexes.insertAll _ _⟩

/-- Stores that are extended by the same operations, in whatever order, have the same
collections and indexes.
-/
theorem Extends.unique {store final other : MemoryStore} {operations others : List Operation}
    (left : store.Extends operations final) (right : store.Extends others other)
    (same : others.Perm operations) (finalOrdered : final.Ordered) (otherOrdered : other.Ordered)
    : other.collections = final.collections ∧ other.indexes = final.indexes := by
  constructor
  · apply otherOrdered.collections.ext finalOrdered.collections
    intro name
    apply Option.ext
    intro creation
    have created : creation ∈ createdCollections others
        ↔ creation ∈ createdCollections operations := (same.filterMap _).mem_iff
    rw [right.collections, left.collections, created]
  · apply otherOrdered.indexes.ext finalOrdered.indexes
    intro name
    apply Option.ext
    intro creation
    have created : creation ∈ createdIndexes others
        ↔ creation ∈ createdIndexes operations := (same.filterMap _).mem_iff
    rw [right.indexes, left.indexes, created]

end MemoryStore

end Catalog
