import Catalog.Database

/-! A database that keeps its schema in memory.
Creating what exists already fails, as does an index on a missing collection. Every submitted
expression is recorded, whatever becomes of it.
-/

namespace Catalog

/-- The state of the database. The clock counts the successful operations without a bound, but is
answered as a signed integer of 64 bits, `Int64.ofNat clock`. So the time wraps around after the
largest of these; a build with overflow checks would stop there instead.
-/
structure MemoryStore where
  collections : Entries CollectionCreation := []
  indexes : Entries IndexCreation := []
  submitted : List Expr := []
  clock : Nat := 0
  deriving DecidableEq

namespace MemoryStore

/-- The database without collections, indexes and records. -/
def empty : MemoryStore := {}

/-- Advances the clock and answers with a reference, the name and the time. -/
def acknowledge (store : MemoryStore) (reference : Expr) (name : String)
    : Except Error Expr × MemoryStore :=
  let clock := store.clock + 1
  (.ok (.object [("name", .string name), ("ref", reference), ("ts", .int (Int64.ofNat clock))]),
    { store with clock })

/-- Carries an operation out. An index needs a new name first and an existing source next. -/
def apply (store : MemoryStore) : Operation → Except Error Expr × MemoryStore
  | .createCollection creation =>
    if store.collections.contains creation.name then
      (.error (.alreadyExists (.collection creation.name)), store)
    else
      let collections := store.collections.insert creation.name creation
      acknowledge { store with collections } (.collection creation.name) creation.name
  | .createIndex creation =>
    if store.indexes.contains creation.name then
      (.error (.alreadyExists (.index creation.name)), store)
    else if !store.collections.contains creation.source then
      (.error (.notFound (.collection creation.source)), store)
    else
      let indexes := store.indexes.insert creation.name creation
      acknowledge { store with indexes } (.index creation.name) creation.name

/-- Records an expression, reads it as an operation and carries it out. -/
def execute (expr : Expr) (store : MemoryStore) : Except Error Expr × MemoryStore :=
  let recorded := { store with submitted := store.submitted ++ [expr] }
  match Operation.ofExpr expr with
  | .ok operation => recorded.apply operation
  | .error error => (.error error, recorded)

/-- Deletes all collections and indexes, forgets what was submitted and resets the clock. -/
def purge (_ : MemoryStore) : MemoryStore := empty

/-- The in-memory database. -/
def database : Database MemoryStore := ⟨execute⟩

end MemoryStore

end Catalog
