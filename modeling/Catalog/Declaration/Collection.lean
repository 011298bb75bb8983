import Catalog.Name

/-! The collection of a declared type. -/

namespace Catalog

/-- A number of days. -/
abbrev Days := UInt32

/-- The history retention of a declaration that does not give one. -/
def defaultHistoryDays : Days := 30

/-- What a declaration says about its collection. -/
structure CollectionDeclaration where
  name : String
  /-- Documents are deleted this many days after their last write. -/
  ttlDays? : Option Days := none
  /-- The history of documents is kept at least this many days; without a value the database
  decides.
  -/
  historyDays? : Option Days := some defaultHistoryDays
  data? : Option JsonObject := none
  permissions? : Option JsonObject := none
  deriving DecidableEq

/-- Refuses a collection whose name the database does not accept. -/
def CollectionDeclaration.check (collection : CollectionDeclaration) : Except Error Unit :=
  checkName .collection collection.name

end Catalog
