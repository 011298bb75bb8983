import Catalog.Error

/-! The names that the database accepts for collections and indexes. -/

namespace Catalog

/-- Names that the database keeps for itself. -/
def reservedNames : List String :=
  ["events", "sets", "self", "documents", "_"]

/-- Refuses an empty or a reserved name. -/
def checkName (kind : NameKind) (name : String) : Except Error Unit :=
  if name = "" then .error (.invalidName kind name .empty)
  else if name ∈ reservedNames then .error (.invalidName kind name .reserved)
  else .ok ()

end Catalog
