import Catalog.Proofs.Expr.CanonicalWire

/-! Which expressions hold data.
An expression has data exactly if it calls no function at any depth, and reading its data fails only
because of a call. The data of an object is an object.
-/

namespace Catalog

open Outcome

/-- The error of an expression that is not of the form that is looked for. -/
def Error.OfExpr (error : Error) : Prop :=
  ∃ expected found, error = .invalidExpr expected found

namespace Expr

/-- An expression is not a call at its top. -/
def CallFreeTop : Expr → Prop
  | call _ _ => False
  | null | bool _ | int _ | uint _ | float _ | string _ | array _ | object _ => True

/-- An expression calls no function at any depth. -/
def CallFree (expr : Expr) : Prop :=
  expr.Everywhere CallFreeTop

mutual

/-- An expression without calls has data, by recursion on it. -/
theorem exists_toJson (expr : Expr) (callFree : expr.CallFree)
    : ∃ value, expr.toJson = .ok value := by
  cases expr with
  | null | bool _ | int _ | uint _ | float _ | string _ => exact ⟨_, rfl⟩
  | array items =>
      obtain ⟨values, read⟩ := exists_toJsonItems items callFree.2
      exact ⟨_, bind_eq_ok.mpr ⟨values, read, rfl⟩⟩
  | object entries =>
      obtain ⟨values, read⟩ := exists_toJsonEntries entries callFree.2
      exact ⟨_, bind_eq_ok.mpr ⟨values, read, rfl⟩⟩
  | call function argument => exact callFree.1.elim

/-- Items without calls have data. -/
theorem exists_toJsonItems (items : List Expr) (callFree : EverywhereInItems CallFreeTop items)
    : ∃ values, toJsonItems items = .ok values := by
  cases items with
  | nil => exact ⟨[], rfl⟩
  | cons item rest =>
      obtain ⟨value, head⟩ := exists_toJson item callFree.1
      obtain ⟨values, tail⟩ := exists_toJsonItems rest callFree.2
      exact ⟨value :: values, bind_eq_ok.mpr ⟨_, head, bind_eq_ok.mpr ⟨_, tail, rfl⟩⟩⟩

/-- The values of an object without calls have data. -/
theorem exists_toJsonEntries (entries : List (String × Expr))
    (callFree : EverywhereInEntries CallFreeTop entries)
    : ∃ values, toJsonEntries entries = .ok values := by
  cases entries with
  | nil => exact ⟨[], rfl⟩
  | cons entry rest =>
      obtain ⟨value, head⟩ := exists_toJson entry.2 callFree.1
      obtain ⟨values, tail⟩ := exists_toJsonEntries rest callFree.2
      exact ⟨(entry.1, value) :: values, bind_eq_ok.mpr ⟨_, head, bind_eq_ok.mpr ⟨_, tail, rfl⟩⟩⟩

end

mutual

/-- An expression that has data calls no function, by recursion on it. -/
theorem callFree_of_toJson (expr : Expr) (value : Json) (read : expr.toJson = .ok value)
    : expr.CallFree := by
  cases expr with
  | null | bool _ | int _ | uint _ | float _ | string _ => trivial
  | array items =>
      obtain ⟨values, read, _⟩ := bind_eq_ok.mp read
      exact ⟨trivial, callFree_of_toJsonItems items values read⟩
  | object entries =>
      obtain ⟨values, read, _⟩ := bind_eq_ok.mp read
      exact ⟨trivial, callFree_of_toJsonEntries entries values read⟩
  | call function argument => nomatch read

/-- Items that have data call no function. -/
theorem callFree_of_toJsonItems (items : List Expr) (values : List Json)
    (read : toJsonItems items = .ok values)
    : EverywhereInItems CallFreeTop items := by
  cases items with
  | nil => trivial
  | cons item rest =>
      obtain ⟨value, head, read⟩ := bind_eq_ok.mp read
      obtain ⟨others, tail, _⟩ := bind_eq_ok.mp read
      exact ⟨callFree_of_toJson item value head, callFree_of_toJsonItems rest others tail⟩

/-- The values of an object that have data call no function. -/
theorem callFree_of_toJsonEntries (entries : List (String × Expr)) (values : List (String × Json))
    (read : toJsonEntries entries = .ok values)
    : EverywhereInEntries CallFreeTop entries := by
  cases entries with
  | nil => trivial
  | cons entry rest =>
      obtain ⟨value, head, read⟩ := bind_eq_ok.mp read
      obtain ⟨others, tail, _⟩ := bind_eq_ok.mp read
      exact ⟨callFree_of_toJson entry.2 value head, callFree_of_toJsonEntries rest others tail⟩

end

mutual

/-- Reading data fails only because of what the expression is, by recursion on it. -/
theorem toJson_fails (expr : Expr) : FailsOnly Error.OfExpr expr.toJson := by
  cases expr with
  | null | bool _ | int _ | uint _ | float _ | string _ => exact .ok _
  | array items => exact (toJsonItems_fails items).bind fun _ => .ok _
  | object entries => exact (toJsonEntries_fails entries).bind fun _ => .ok _
  | call function argument => exact .error ⟨_, _, rfl⟩

/-- Reading the data of items fails only because of what they are. -/
theorem toJsonItems_fails (items : List Expr) : FailsOnly Error.OfExpr (toJsonItems items) := by
  cases items with
  | nil => exact .ok _
  | cons item rest =>
      exact (toJson_fails item).bind fun _ => (toJsonItems_fails rest).bind fun _ => .ok _

/-- Reading the data of an object's values fails only because of what they are. -/
theorem toJsonEntries_fails (entries : List (String × Expr))
    : FailsOnly Error.OfExpr (toJsonEntries entries) := by
  cases entries with
  | nil => exact .ok _
  | cons entry rest =>
      exact (toJson_fails entry.2).bind fun _ => (toJsonEntries_fails rest).bind fun _ => .ok _

end

-----------------------------------------------------------------------------------------
-- Objects
-----------------------------------------------------------------------------------------

/-- The data of an expression is an object exactly if the expression is one. -/
theorem toObject_eq_ok {expr : Expr} {entries : JsonObject}
    : expr.toObject = .ok entries ↔ expr.toJson = .ok (.object entries) := by
  rw [toObject, bind_eq_ok]
  constructor
  · rintro ⟨value, read, done⟩
    cases value with
    | object found => exact pure_eq_ok.mp done ▸ read
    | null | bool _ | number _ | string _ | array _ => nomatch done
  · exact fun read => ⟨_, read, rfl⟩

/-- Data is an object only if it is the data of an object, by cases of the expression. -/
theorem eq_object_of_toJson {expr : Expr} {values : JsonObject}
    (read : expr.toJson = .ok (.object values))
    : ∃ entries, expr = .object entries := by
  cases expr with
  | object entries => exact ⟨entries, rfl⟩
  | null | bool _ | int _ | uint _ | string _ | call _ _ => nomatch read
  | float value =>
      rw [toJson, Json.ofFloat] at read
      split at read <;> nomatch read
  | array items =>
      obtain ⟨_, _, done⟩ := bind_eq_ok.mp read
      nomatch done

/-- An expression has the data of an object exactly if it is an object without calls. -/
theorem exists_toObject_iff {expr : Expr}
    : (∃ values, expr.toObject = .ok values)
      ↔ (∃ entries, expr = .object entries) ∧ expr.CallFree := by
  simp only [toObject_eq_ok]
  constructor
  · rintro ⟨values, read⟩
    exact ⟨eq_object_of_toJson read, callFree_of_toJson _ _ read⟩
  · rintro ⟨⟨entries, rfl⟩, callFree⟩
    obtain ⟨values, read⟩ := exists_toJsonEntries entries callFree.2
    exact ⟨values, bind_eq_ok.mpr ⟨values, read, rfl⟩⟩

theorem toObject_fails (expr : Expr) : FailsOnly Error.OfExpr expr.toObject := by
  refine (toJson_fails expr).bind fun value => ?_
  cases value with
  | object entries => exact .ok _
  | null | bool _ | number _ | string _ | array _ => exact .error ⟨_, _, rfl⟩

end Expr

end Catalog
