import Catalog.Declaration.Collection
import Catalog.Declaration.Field
import Catalog.Declaration.Index

/-! Names of indexes that are declared without one: `<values>_by_<terms>`.
A field contributes its stored name, the own reference the collection's name and the
timestamp `ts`; a reversed value is followed by `reverse`. Without values the collection's name
stands for them, and without terms the name ends in `_by`.
-/

namespace Catalog.IndexDeclaration

/-- The part of a name that an element contributes. -/
def elementToken (collection : String) (fields : FieldMap) : Element → String
  | .field member => fields.resolve member
  | .selfReference => collection
  | .timestamp => "ts"

/-- The parts that a value contributes. -/
def valueTokens (collection : String) (fields : FieldMap) (value : SortedElement)
    : List String :=
  elementToken collection fields value.element
    :: match value.order with
      | .default => []
      | .reverse => ["reverse"]

/-- The name derived for an index of the given collection. -/
def derivedName (index : IndexDeclaration) (collection : String) (fields : FieldMap)
    : String :=
  let values :=
    if index.values.isEmpty then [collection]
    else index.values.flatMap (valueTokens collection fields)
  "_".intercalate (values ++ "by" :: index.terms.map (elementToken collection fields))

end Catalog.IndexDeclaration
