import Catalog.Declaration.Collection
import Catalog.Operation.Target

/-! The operations that create a schema in the database. -/

namespace Catalog

/-- Creates a collection. -/
structure CollectionCreation where
  name : String
  historyDays? : Option Days := none
  ttlDays? : Option Days := none
  data? : Option JsonObject := none
  permissions? : Option JsonObject := none
  deriving DecidableEq

/-- What an index term or value points at in a document. -/
inductive IndexedField
  /-- A data field, by its stored name. -/
  | data (name : String)
  /-- The document's own reference. -/
  | reference
  /-- The time of the last write. -/
  | timestamp
  deriving DecidableEq, Repr

/-- A value of an index, and whether it is sorted in reverse. -/
structure IndexedValue where
  field : IndexedField
  reverse : Bool
  deriving DecidableEq, Repr

/-- Creates an index on the collection named by `source`. -/
structure IndexCreation where
  name : String
  source : String
  terms : List IndexedField
  values : List IndexedValue
  unique : Bool
  serialized : Bool
  data? : Option JsonObject
  permissions? : Option JsonObject
  deriving DecidableEq

/-- A schema operation. -/
inductive Operation
  | createCollection (creation : CollectionCreation)
  | createIndex (creation : IndexCreation)
  deriving DecidableEq

namespace Operation

/-- The collection or index that an operation creates. -/
def target : Operation → Target
  | createCollection creation => .collection creation.name
  | createIndex creation => .index creation.name

/-- The name of what an operation creates. -/
def name (operation : Operation) : String :=
  operation.target.name

/-- The index that an operation creates. -/
def index? : Operation → Option IndexCreation
  | createCollection _ => none
  | createIndex creation => some creation

/-- The collection that an operation creates. -/
def collection? : Operation → Option CollectionCreation
  | createCollection creation => some creation
  | createIndex _ => none

end Operation

end Catalog
