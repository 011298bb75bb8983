import Catalog.Proofs.Expr.CallFree
import Catalog.Proofs.Expr.LiteralData

/-! JSON data and literals correspond to each other exactly.
A literal is the only one that holds its data, since no two literals of numbers stand for the same
number. All that keeps an expression from holding data are calls, and the first one is reported.
-/

namespace Catalog

open Outcome

namespace Expr

-----------------------------------------------------------------------------------------
-- Literals of data
-----------------------------------------------------------------------------------------

mutual

/-- A literal is the literal of its data, by recursion on it. -/
theorem ofJson_of_toJson (expr : Expr) (value : Json) (literal : expr.Literal)
    (read : expr.toJson = .ok value)
    : ofJson value = expr := by
  cases expr with
  | null | bool _ | string _ =>
      cases read
      rfl
  | int word =>
      cases read
      rw [Json.ofInt64, ofJson, ofNumber_toInt]
  | uint word =>
      have large : Int64.maxValue.toInt < word.toNat := literal
      cases read
      rw [Json.ofUInt64, ofJson, ofNumber_toNat large]
  | float word =>
      have finite : word.isFinite = true := literal
      rw [toJson, Json.ofFloat, dif_pos finite] at read
      cases read
      rfl
  | array items =>
      obtain ⟨values, found, done⟩ := bind_eq_ok.mp read
      cases done
      rw [ofJson, ofItems_of_toJsonItems items values literal.2 found]
  | object entries =>
      obtain ⟨values, found, done⟩ := bind_eq_ok.mp read
      cases done
      rw [ofJson, ofEntries_of_toJsonEntries entries values literal.2 found]
  | call function argument => exact literal.1.elim

theorem ofItems_of_toJsonItems (items : List Expr) (values : List Json)
    (literal : EverywhereInItems LiteralTop items) (read : toJsonItems items = .ok values)
    : ofItems values = items := by
  cases items with
  | nil =>
      cases read
      rfl
  | cons item rest =>
      obtain ⟨value, first, read⟩ := bind_eq_ok.mp read
      obtain ⟨others, later, done⟩ := bind_eq_ok.mp read
      cases done
      rw [ofItems, ofJson_of_toJson item value literal.1 first,
        ofItems_of_toJsonItems rest others literal.2 later]

theorem ofEntries_of_toJsonEntries (entries : List (String × Expr)) (values : List (String × Json))
    (literal : EverywhereInEntries LiteralTop entries) (read : toJsonEntries entries = .ok values)
    : ofEntries values = entries := by
  cases entries with
  | nil =>
      cases read
      rfl
  | cons entry rest =>
      obtain ⟨key, item⟩ := entry
      obtain ⟨value, first, read⟩ := bind_eq_ok.mp read
      obtain ⟨others, later, done⟩ := bind_eq_ok.mp read
      cases done
      rw [ofEntries, ofJson_of_toJson item value literal.1 first,
        ofEntries_of_toJsonEntries rest others literal.2 later]

end

-----------------------------------------------------------------------------------------
-- The first call
-----------------------------------------------------------------------------------------

mutual

/-- The functions that an expression calls, in the order in which a walk from left to right meets the
calls: each call before those in its argument, and the entries of an object in key order.
-/
def calls : Expr → List String
  | null | bool _ | int _ | uint _ | float _ | string _ => []
  | array items => callsInItems items
  | object entries => callsInEntries entries
  | call function argument => function :: argument.calls

def callsInItems : List Expr → List String
  | [] => []
  | item :: rest => item.calls ++ callsInItems rest

def callsInEntries : List (String × Expr) → List String
  | [] => []
  | (_, item) :: rest => item.calls ++ callsInEntries rest

end

mutual

/-- An expression that calls no function is free of calls, by recursion on it. -/
theorem callFree_of_calls (expr : Expr) (silent : expr.calls = []) : expr.CallFree := by
  cases expr with
  | null | bool _ | int _ | uint _ | float _ | string _ => trivial
  | array items => exact ⟨trivial, callFree_of_callsInItems items silent⟩
  | object entries => exact ⟨trivial, callFree_of_callsInEntries entries silent⟩
  | call function argument => nomatch silent

theorem callFree_of_callsInItems (items : List Expr) (silent : callsInItems items = [])
    : EverywhereInItems CallFreeTop items := by
  cases items with
  | nil => trivial
  | cons item rest =>
      obtain ⟨first, others⟩ := List.append_eq_nil_iff.mp silent
      exact ⟨callFree_of_calls item first, callFree_of_callsInItems rest others⟩

theorem callFree_of_callsInEntries (entries : List (String × Expr))
    (silent : callsInEntries entries = [])
    : EverywhereInEntries CallFreeTop entries := by
  cases entries with
  | nil => trivial
  | cons entry rest =>
      obtain ⟨first, others⟩ := List.append_eq_nil_iff.mp silent
      exact ⟨callFree_of_calls entry.2 first, callFree_of_callsInEntries rest others⟩

end

/-- The error of an expression of which data is wanted, and which calls a function. -/
abbrev calling (function : String) : Error :=
  .invalidExpr .literal (.callTo function)

mutual

/-- The data of an expression with calls fails at the first of them, by recursion on it: what stands
before that call has data, and what follows it is not looked at.
-/
theorem toJson_of_calls (expr : Expr) {function : String} {others : List String}
    (met : expr.calls = function :: others)
    : expr.toJson = .error (calling function) := by
  cases expr with
  | null | bool _ | int _ | uint _ | float _ | string _ => nomatch met
  | array items => rw [toJson, toJsonItems_of_calls items met]; rfl
  | object entries => rw [toJson, toJsonEntries_of_calls entries met]; rfl
  | call found argument =>
      obtain rfl : found = function := (List.cons.inj met).1
      rfl

theorem toJsonItems_of_calls (items : List Expr) {function : String} {others : List String}
    (met : callsInItems items = function :: others)
    : toJsonItems items = .error (calling function) := by
  cases items with
  | nil => nomatch met
  | cons item rest =>
      rcases List.append_eq_cons_iff.mp met with ⟨silent, later⟩ | ⟨_, first, _⟩
      · obtain ⟨value, read⟩ := exists_toJson item (callFree_of_calls item silent)
        rw [toJsonItems, read, ok_bind, toJsonItems_of_calls rest later]
        rfl
      · rw [toJsonItems, toJson_of_calls item first]
        rfl

theorem toJsonEntries_of_calls (entries : List (String × Expr)) {function : String}
    {others : List String} (met : callsInEntries entries = function :: others)
    : toJsonEntries entries = .error (calling function) := by
  cases entries with
  | nil => nomatch met
  | cons entry rest =>
      obtain ⟨key, item⟩ := entry
      rcases List.append_eq_cons_iff.mp met with ⟨silent, later⟩ | ⟨_, first, _⟩
      · obtain ⟨value, read⟩ := exists_toJson item (callFree_of_calls item silent)
        rw [toJsonEntries, read, ok_bind, toJsonEntries_of_calls rest later]
        rfl
      · rw [toJsonEntries, toJson_of_calls item first]
        rfl

end

/-- Reading the data of an expression fails exactly if it calls a function, and then at the first
call.
-/
theorem toJson_eq_error {expr : Expr} {error : Error}
    : expr.toJson = .error error
      ↔ ∃ function, expr.calls.head? = some function ∧ error = calling function := by
  cases met : expr.calls with
  | nil =>
      obtain ⟨value, read⟩ := exists_toJson expr (callFree_of_calls expr met)
      simp [read]
  | cons function others => simp [toJson_of_calls expr met, eq_comm]

-----------------------------------------------------------------------------------------
-- Data and literals
-----------------------------------------------------------------------------------------

/-- A JSON value becomes an expression exactly if the expression is a literal at every depth, which
calls no function, has unsigned integers only for large numbers and has no floats but finite ones,
and if the value is its data. An expression has no data exactly if it is not free of calls, and the
error names the function of the first call.
-/
theorem ofJson_eq_iff_literal (expr : Expr)
    : (∀ value, ofJson value = expr ↔ expr.Literal ∧ expr.toJson = .ok value)
      ∧ ((∃ error, expr.toJson = .error error) ↔ ¬expr.CallFree)
      ∧ ∀ error,
          expr.toJson = .error error
          ↔ ∃ function,
              expr.calls.head? = some function
              ∧ error = .invalidExpr .literal (.callTo function) := by
  refine ⟨?_, ?_, ?_⟩
  · intro value
    constructor
    · intro same
      exact same ▸ ⟨ofJson_literal value, toJson_ofJson value⟩
    · intro ⟨literal, read⟩
      exact ofJson_of_toJson expr value literal read
  · constructor
    · intro ⟨error, failed⟩ callFree
      obtain ⟨value, read⟩ := exists_toJson expr callFree
      nomatch failed.symm.trans read
    · intro present
      cases read : expr.toJson with
      | ok value => exact absurd (callFree_of_toJson expr value read) present
      | error error => exact ⟨error, rfl⟩
  · intro error
    exact toJson_eq_error

/-- Of three calls the one that is met first is reported, not the one inside its argument. -/
example
    : (array [object [("a", call "f" (call "g" null))], call "h" null]).toJson
      = .error (.invalidExpr .literal (.callTo "f")) := by
  rfl

end Expr

end Catalog
