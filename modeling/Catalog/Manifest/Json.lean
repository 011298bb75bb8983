import Catalog.Json.Reading
import Catalog.Manifest.Decode

/-! Manifests in JSON. A list may stand for a record, and only null is absent. -/

namespace Catalog

namespace Json.Reading

open Manifest (Outline Scalar)

/-- The outline of a number. -/
def numberOutline : Number → Outline
  | .int value _ => .scalar { shape := .integer value, count? := some value }
  | .float value _ => .scalar { shape := .float value }

/-- The outline of a string. -/
def stringOutline (text : String) : Outline :=
  .scalar { shape := .string text, text? := some text }

mutual

/-- The outline of a JSON text. -/
def outline : Reading → Outline
  | malformed => .broken
  | null => .scalar { shape := .null, presence := .absent }
  | bool value => .scalar { shape := .bool value, flag? := some value }
  | number value => value.elim .unreadable numberOutline
  | string value => value.elim .unreadable stringOutline
  | array items => .list true (outlines items)
  | object entries => .map (entryOutlines entries)
  | deep container => if container.isComplete then .unreadable else .broken

/-- The outlines of the items of an array. -/
def outlines : List Reading → List Outline
  | [] => []
  | item :: rest => item.outline :: outlines rest

/-- The outlines of the entries of an object. -/
def entryOutlines : List (Option String × Reading) → List (Outline × Outline)
  | [] => []
  | (key, value) :: rest =>
    (key.elim .unreadable stringOutline, value.outline) :: entryOutlines rest

end

end Json.Reading

/-- Loads a manifest from the first value of a JSON text; what follows does not matter. -/
def Manifest.ofJson (text : String) : Except Manifest.LoadError Manifest :=
  Manifest.decode (Json.Reading.ofText text).1.outline

end Catalog
