import Catalog.Manifest.Decode
import Catalog.Yaml.Node
import Catalog.Yaml.Value

/-! Manifests in YAML.
A scalar that is not written stands for whatever may be empty. A plain scalar is typed by its
text, unless a tag says what it is; where a string has to stand its text counts.
-/

namespace Catalog

namespace Yaml

open Manifest (Outline Scalar Shape Label Presence)

/-- The labels that tags of the core schema give to scalars. -/
def labelOfTag? : String → Option Label
  | "tag:yaml.org,2002:null" => some .null
  | "tag:yaml.org,2002:bool" => some .boolean
  | "tag:yaml.org,2002:int" => some .integer
  | "tag:yaml.org,2002:float" => some .float
  | _ => none

/-- Whether a tag is local to the document. -/
def isLocal (tag : String) : Bool :=
  tag.toList.head? = some '!'

/-- An integer; those beyond 64 bits are told apart. -/
def integerShape (value : Int) : Shape :=
  if Number.FitsWord value then .integer value else .wide value

/-- What a plain scalar is. -/
def plainShape (text : String) : Shape :=
  match Value.ofText text with
  | .null => .null
  | .bool value => .bool value
  | .integer value => integerShape value
  | .float value => .float value
  | .string text => .string text

/-- What a labelled scalar is. -/
def labelledShape (label : Label) (text : String) : Shape :=
  let shape? : Option Shape :=
    match label with
    | .null => if Value.isNull text then some .null else none
    | .boolean => (Value.bool? text).map .bool
    | .integer => (Value.integer? text).map integerShape
    | .float => (Value.float? text).map .float
  shape?.getD (.mislabelled text label)

/-- What a scalar is where anything may stand. -/
def scalarShape (tag? : Option String) (text : String) (style : Style) : Shape :=
  match tag?, tag?.bind labelOfTag? with
  | _, some label => labelledShape label text
  | some tag, none =>
    if isLocal tag ∧ style = .plain then plainShape text else .string text
  | none, none => if style = .plain then plainShape text else .string text

/-- Whether a scalar is a value where an optional one may stand. -/
def scalarPresence (tag? : Option String) (text : String) (style : Style) : Presence :=
  match style, tag?, tag?.bind labelOfTag? with
  | .plain, _, some .null => if Value.isNull text then .absent else .contradictory
  | .plain, none, _ => if text.isEmpty ∨ Value.isNull text then .absent else .present
  | _, _, _ => .present

/-- The scalar that stands in a manifest. -/
def scalarOf (tag? : Option String) (text : String) (style : Style) : Scalar :=
  let typedAs (label : Label) : Bool :=
    style = .plain || style = .literal && tag?.bind labelOfTag? = some label
  { shape := scalarShape tag? text style
    text? := some text
    flag? := if typedAs .boolean then Value.bool? text else none
    count? :=
      if typedAs .integer then
        ((Value.natural? text).filter (· < UInt64.size)).map Int.ofNat
      else none
    presence := scalarPresence tag? text style
    blank := style = .plain && text.isEmpty }

namespace Node

mutual

/-- The nodes that have an anchor, each with those inside of it after it. -/
def anchored : Node → List (String × Node)
  | broken | aliasOf _ => []
  | scalar properties text style =>
    (properties.anchor?.map (·, scalar properties text style)).toList
  | sequence properties items =>
    (properties.anchor?.map (·, sequence properties items)).toList ++ anchoredItems items
  | mapping properties entries =>
    (properties.anchor?.map (·, mapping properties entries)).toList
      ++ anchoredEntries entries

/-- The nodes with an anchor among items. -/
def anchoredItems : List Node → List (String × Node)
  | [] => []
  | item :: rest => item.anchored ++ anchoredItems rest

/-- The nodes with an anchor among entries. -/
def anchoredEntries : List (Node × Node) → List (String × Node)
  | [] => []
  | (key, value) :: rest => key.anchored ++ value.anchored ++ anchoredEntries rest

end

mutual

/-- How many events a node consists of: a collection has a start and an end. -/
def size : Node → Nat
  | broken => 0
  | aliasOf _ | scalar _ _ _ => 1
  | sequence _ items => 2 + sizeItems items
  | mapping _ entries => 2 + sizeEntries entries

/-- How many events items consist of. -/
def sizeItems : List Node → Nat
  | [] => 0
  | item :: rest => item.size + sizeItems rest

/-- How many events entries consist of. -/
def sizeEntries : List (Node × Node) → Nat
  | [] => 0
  | (key, value) :: rest => key.size + value.size + sizeEntries rest

end

/-- Collections may be nested this deeply. -/
def depthLimit : Nat := 128

/-- For each event of a document, so many aliases may be followed. -/
def aliasesPerEvent : Nat := 100

/-- The node that stands for a node: that of its anchor for an alias. An alias takes one of the
aliases that may still be followed.
-/
def target (anchors : List (String × Node)) : Node → StateM Nat Node
  | aliasOf anchor => do
    let left ← get
    if left = 0 then return broken
    set (left - 1)
    return (anchors.lookup anchor).getD broken
  | node => return node

/-- Marks what has a tag of its own. -/
def markLocal (tag? : Option String) (outline : Outline) : Outline :=
  if tag?.any isLocal then .labelled outline else outline

/-- The outline of a node inside of as many collections as the limit leaves. -/
def outlineWithin (anchors : List (String × Node)) : Nat → Node → StateM Nat Outline
  | depth, node => do
    match depth, ← target anchors node with
    | _, scalar properties text style =>
      return markLocal properties.tag? (.scalar (scalarOf properties.tag? text style))
    | depth + 1, sequence properties items =>
      let items ← items.mapM (outlineWithin anchors depth)
      return markLocal properties.tag? (.list false items)
    | depth + 1, mapping properties entries =>
      let entries ← entries.mapM fun (key, value) => do
        return (← outlineWithin anchors depth key, ← outlineWithin anchors depth value)
      return markLocal properties.tag? (.map entries)
    | _, _ => return .broken

/-- The outline of the root of a document. -/
def outline (root : Node) : Outline :=
  ((outlineWithin root.anchored.reverse depthLimit root).run (aliasesPerEvent * root.size)).1

end Node

end Yaml

/-- Loads a manifest from a YAML text, which has to hold one document. -/
def Manifest.ofYaml (text : String) : Except Manifest.LoadError Manifest := do
  let (root, isOnly) := Yaml.Node.ofText text
  let manifest ← Manifest.decode root.outline
  if isOnly then return manifest
  throw .malformed

end Catalog
