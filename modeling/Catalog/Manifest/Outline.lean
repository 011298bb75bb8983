import Catalog.Manifest.Fault

/-! What a manifest text holds, whatever its format.
An outline keeps the order and the repetitions of keys, and it keeps what stands before the
place where the text breaks off, so that whoever reads it from left to right meets a fault of
content before a later fault of form.
-/

namespace Catalog.Manifest

/-- Whether an optional value is given. -/
inductive Presence
  | present
  | absent
  /-- The scalar is labelled as null and holds something else. -/
  | contradictory
  deriving DecidableEq, Repr

/-- A scalar, with what it stands for wherever it may be put. -/
structure Scalar where
  /-- What it is where anything may stand. -/
  shape : Shape
  /-- What it is where a string has to stand. -/
  text? : Option String := none
  /-- What it is where a Boolean has to stand. -/
  flag? : Option Bool := none
  /-- What it is where a count has to stand. -/
  count? : Option Int := none
  /-- Whether it is a value at all where an optional one may stand. -/
  presence : Presence := .present
  /-- Whether it stands for an empty list or an empty record. -/
  blank : Bool := false

/-- What a text holds at one place. -/
inductive Outline
  /-- Here the text stops being well-formed; nothing follows. -/
  | broken
  /-- Something well-formed that has no value, and can only be passed over. -/
  | unreadable
  | scalar (content : Scalar)
  /-- A list; in some formats a record may be written as the list of its members. -/
  | list (positional : Bool) (items : List Outline)
  | map (entries : List (Outline × Outline))
  /-- A value with a label of its own kind. -/
  | labelled (value : Outline)

namespace Outline

mutual

/-- Whether a text goes on well-formed to the end of a value, so that it can be passed over. -/
def isComplete : Outline → Bool
  | broken => false
  | unreadable | scalar _ => true
  | list _ items => allComplete items
  | map entries => entriesComplete entries
  | labelled value => value.isComplete

/-- Whether all items are complete. -/
def allComplete : List Outline → Bool
  | [] => true
  | item :: rest => item.isComplete && allComplete rest

/-- Whether all entries are complete. -/
def entriesComplete : List (Outline × Outline) → Bool
  | [] => true
  | (key, value) :: rest => key.isComplete && value.isComplete && entriesComplete rest

end

/-- What stands at the root of an outline, unless it cannot be read. -/
def shape? : Outline → Option Shape
  | broken | unreadable => none
  | scalar content => some content.shape
  | list _ _ => some .sequence
  | map _ => some .map
  | labelled value => value.shape?

/-- The error of a value that is not what is looked for. -/
def mismatch (outline : Outline) (wanted : Wanted) : LoadError :=
  match outline.shape? with
  | some found => .misshapen [] (.mismatch found wanted)
  | none => .malformed

/-- The path segment of an entry, by its key. -/
def segment : Outline → Segment
  | scalar content =>
    match content.shape with
    | .string key => .key key
    | .bool value => .key (if value then "true" else "false")
    | .integer value => .key (toString value)
    | _ => .unnamed
  | _ => .unnamed

mutual

/-- Takes a value in, whatever it is: refuses what is unreadable, labelled, or a scalar that is
no value of any kind.
-/
def takeIn : Outline → Except LoadError Unit
  | broken | unreadable => .error .malformed
  | labelled _ => .error (.misshapen [] .labelledChoice)
  | scalar { shape := .wide value, .. } =>
    .error (.misshapen [] (.mismatch (.wide value) .data))
  | scalar { shape := .mislabelled text label, .. } =>
    .error (.misshapen [] (.mismatch (.mislabelled text label) .data))
  | scalar _ => .ok ()
  | list _ items => takeInItems 0 items
  | map entries => takeInEntries entries

/-- Takes in the items of a list from a position on. -/
def takeInItems (position : Nat) : List Outline → Except LoadError Unit
  | [] => .ok ()
  | item :: rest => do
    item.takeIn.mapError (.within (.item position))
    takeInItems (position + 1) rest

/-- Takes in the entries of a map. -/
def takeInEntries : List (Outline × Outline) → Except LoadError Unit
  | [] => .ok ()
  | (key, value) :: rest => do
    key.takeIn.mapError (.within .unnamed)
    value.takeIn.mapError (.within key.segment)
    takeInEntries rest

end

/-- The string that a scalar is where anything may stand. -/
def string? : Outline → Option String
  | scalar { shape := .string value, .. } => some value
  | _ => none

end Outline

end Catalog.Manifest
