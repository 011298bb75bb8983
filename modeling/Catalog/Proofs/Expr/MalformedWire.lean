import Catalog.Proofs.Expr.CanonicalWire

/-! Why a JSON value is not the wire form of an expression.
A value is walked from the outside inward and from left to right, as far as its parts stand for
expressions. Reading it fails exactly if the walk meets a node that is neither an object literal nor
a call, and the first such node is reported.
-/

namespace Catalog

open Outcome

namespace Expr

-----------------------------------------------------------------------------------------
-- The walk
-----------------------------------------------------------------------------------------

mutual

/-- The nodes of a value that stand for expressions, in the order in which a walk meets them: each
node before those inside it. In an array these are its items in order; in an object literal the
values of its entries in key order; and in any other object with one key its value, which is the
argument of the call.
-/
def wireNodes : Json → List Json
  | .null => [.null]
  | .bool value => [.bool value]
  | .number value => [.number value]
  | .string value => [.string value]
  | .array items => .array items :: wireNodesOfItems items
  | .object [(key, value)] =>
    .object [(key, value)] ::
      if key = objectKey then
        match value with
        | .object entries => wireNodesOfEntries entries
        | other => wireNodes other
      else wireNodes value
  | .object entries => [.object entries]

def wireNodesOfItems : List Json → List Json
  | [] => []
  | item :: rest => wireNodes item ++ wireNodesOfItems rest

def wireNodesOfEntries : List (String × Json) → List Json
  | [] => []
  | (_, item) :: rest => wireNodes item ++ wireNodesOfEntries rest

end

/-- A node stands for no expression, whatever is inside it, and the error says why: it is an object
with other than one key, or what is marked as an object literal is no object.
-/
inductive Malformed : Json → Error → Prop
  | keys {entries : List (String × Json)} (others : entries.length ≠ 1)
    : Malformed (.object entries) (.invalidExpr .wireObject (.keys entries.length))
  | literal {value : Json} (other : ∀ entries, value ≠ .object entries)
    : Malformed (.object [(objectKey, value)]) (.invalidExpr .objectLiteral (.json value))

/-- What is wrong with a node, if it is malformed. -/
def wireFault? : Json → Option Error
  | .object [(key, value)] =>
    if key = objectKey then
      match value with
      | .object _ => none
      | other => some (.invalidExpr .objectLiteral (.json other))
    else none
  | .object entries => some (.invalidExpr .wireObject (.keys entries.length))
  | _ => none

theorem wireFault?_eq_some {node : Json} {error : Error}
    : wireFault? node = some error ↔ Malformed node error := by
  constructor
  · intro wrong
    unfold wireFault? at wrong
    split at wrong
    case h_1 key value =>
      split at wrong
      case isFalse => nomatch wrong
      case isTrue marked =>
        subst key
        split at wrong
        case h_1 => nomatch wrong
        case h_2 other =>
          cases wrong
          exact .literal other
    case h_2 entries several =>
      cases wrong
      refine .keys fun one => ?_
      obtain ⟨⟨key, value⟩, only⟩ := List.length_eq_one_iff.mp one
      exact several key value only
    case h_3 => nomatch wrong
  · intro malformed
    cases malformed with
    | keys others =>
        unfold wireFault?
        split
        case h_1 key value only =>
          cases only
          exact absurd rfl others
        case h_2 same =>
          cases same
          rfl
        case h_3 _ different => exact absurd rfl (different _)
    | @literal value other =>
        cases value with
        | object entries => exact absurd rfl (other entries)
        | null | bool _ | number _ | string _ | array _ => rfl

theorem wireNodes_call {key : String} (marked : key ≠ objectKey) (value : Json)
    : wireNodes (.object [(key, value)]) = .object [(key, value)] :: wireNodes value := by
  cases value <;> simp only [wireNodes, if_neg marked]

theorem wireFault?_call {key : String} (marked : key ≠ objectKey) (value : Json)
    : wireFault? (.object [(key, value)]) = none := by
  simp only [wireFault?, if_neg marked]

-----------------------------------------------------------------------------------------
-- The first fault
-----------------------------------------------------------------------------------------

mutual

/-- Reading a value fails as its first node at which something is wrong, and not if there is none;
by recursion on the value.
-/
theorem findSome?_wireNodes (value : Json)
    : (wireNodes value).findSome? wireFault? = error? (ofWire value) := by
  cases value with
  | null | bool _ | number _ | string _ => rfl
  | array items =>
      rw [ofWire, error?_return, ← findSome?_wireNodesOfItems items]
      rfl
  | object entries =>
      match entries with
      | [] | _ :: _ :: _ => rfl
      | [(key, value)] =>
          by_cases marked : key = objectKey
          · subst key
            cases value with
            | null | bool _ | number _ | string _ | array _ => rfl
            | object entries =>
                rw [ofWire_object, error?_return, ← findSome?_wireNodesOfEntries entries]
                rfl
          · rw [ofWire_call marked, error?_return, ← findSome?_wireNodes value,
              wireNodes_call marked, List.findSome?_cons, wireFault?_call marked]

theorem findSome?_wireNodesOfItems (items : List Json)
    : (wireNodesOfItems items).findSome? wireFault? = error? (ofWireItems items) := by
  cases items with
  | nil => rfl
  | cons item rest =>
      rw [wireNodesOfItems, List.findSome?_append, findSome?_wireNodes item,
        findSome?_wireNodesOfItems rest]
      exact (error?_bind fun _ => error?_return _ _).symm

theorem findSome?_wireNodesOfEntries (entries : List (String × Json))
    : (wireNodesOfEntries entries).findSome? wireFault? = error? (ofWireEntries entries) := by
  cases entries with
  | nil => rfl
  | cons entry rest =>
      obtain ⟨key, item⟩ := entry
      rw [wireNodesOfEntries, List.findSome?_append, findSome?_wireNodes item,
        findSome?_wireNodesOfEntries rest]
      exact (error?_bind fun _ => error?_return _ _).symm

end

/-- Reading a value as a wire form fails exactly if the walk over it meets a malformed node. The
error is then what is wrong with the first one that it meets, whatever follows that node or is
inside it.
-/
theorem ofWire_reports_first (value : Json)
    : ((∃ error, ofWire value = .error error)
        ↔ ∃ node ∈ wireNodes value, ∃ error, Malformed node error)
      ∧ ∀ error,
          ofWire value = .error error
          ↔ ∃ before node after,
              wireNodes value = before ++ node :: after
              ∧ Malformed node error
              ∧ ∀ earlier ∈ before, ∀ other, ¬Malformed earlier other := by
  have failure (error : Error)
      : ofWire value = .error error ↔ (wireNodes value).findSome? wireFault? = some error := by
    rw [findSome?_wireNodes, error?_eq_some]
  constructor
  · simp only [failure, ← wireFault?_eq_some, ← Option.isSome_iff_exists, List.findSome?_isSome_iff]
  · intro error
    simp only [failure, List.findSome?_eq_some_iff, Option.eq_none_iff_forall_ne_some, ne_eq,
      wireFault?_eq_some]

end Expr

end Catalog
