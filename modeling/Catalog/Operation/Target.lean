/-! What a schema operation creates. -/

namespace Catalog

/-- A collection or an index, by name. -/
inductive Target
  | collection (name : String)
  | index (name : String)
  deriving DecidableEq, Repr

/-- The name of what is created. -/
def Target.name : Target → String
  | collection name | index name => name

/-- A target as messages call it. -/
def Target.text : Target → String
  | collection name => "collection '" ++ name ++ "'"
  | index name => "index '" ++ name ++ "'"

end Catalog
