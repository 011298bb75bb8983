import Catalog.Error

/-! The indexes of a declared type.
An index looks documents up by its terms and lists its values, each sorted in an order of its
own. In the flat form of the values an order stands right after the element it applies to.
-/

namespace Catalog

/-- An element of the terms or values of an index. -/
inductive Element
  /-- A field of the declaring type, by its member. -/
  | field (member : String)
  /-- The document's own reference. -/
  | selfReference
  /-- The time of the document's last write. -/
  | timestamp
  deriving DecidableEq, Repr

/-- The member that an element refers to. -/
def Element.member? : Element → Option String
  | field member => some member
  | selfReference | timestamp => none

/-- The order in which a value is sorted. -/
inductive SortOrder
  | default
  | reverse
  deriving DecidableEq, Repr

/-- An element with its sort order. -/
structure SortedElement where
  element : Element
  order : SortOrder := .default
  deriving DecidableEq, Repr

/-- An item of the flat form of values. -/
inductive FlatItem
  | element (element : Element)
  | order (order : SortOrder)
  deriving DecidableEq, Repr

/-- The last value that has been read from the flat form, if an order may still follow it, and
the values before it in reverse.
-/
structure FlatState where
  position : Nat
  open? : Option Element
  closed : List SortedElement

/-- All values read so far, in reverse. -/
def FlatState.values (state : FlatState) : List SortedElement :=
  match state.open? with
  | some element => { element } :: state.closed
  | none => state.closed

/-- Reads one item of the flat form. -/
def FlatState.step (state : FlatState) : FlatItem → Except Error FlatState
  | .element element => .ok ⟨state.position + 1, some element, state.values⟩
  | .order order =>
    match state.open? with
    | some element => .ok ⟨state.position + 1, none, { element, order } :: state.closed⟩
    | none => .error (.danglingOrder state.position)

/-- The values of a flat form. It fails at the first order that does not follow an element. -/
def SortedElement.ofFlat (items : List FlatItem) : Except Error (List SortedElement) :=
  return (← items.foldlM FlatState.step ⟨0, none, []⟩).values.reverse

/-- What a declaration says about an index. -/
structure IndexDeclaration where
  /-- The given name; without one, or with an empty one, the name is derived. -/
  name? : Option String := none
  terms : List Element := []
  values : List SortedElement := []
  /-- Terms and values together are unique among documents. -/
  unique : Bool := false
  /-- Writes to the index are serialized with concurrent reads and writes. -/
  serialized : Bool := true
  data? : Option JsonObject := none
  permissions? : Option JsonObject := none
  deriving DecidableEq

namespace IndexDeclaration

/-- The given name, unless it is empty. -/
def explicitName? (index : IndexDeclaration) : Option String :=
  index.name?.filter (· ≠ "")

/-- The elements of the terms and then of the values. -/
def elements (index : IndexDeclaration) : List Element :=
  index.terms ++ index.values.map SortedElement.element

/-- The members that the index refers to, in order. -/
def members (index : IndexDeclaration) : List String :=
  index.elements.filterMap Element.member?

end IndexDeclaration

end Catalog
