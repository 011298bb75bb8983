import Catalog.Proofs.Expr.CanonicalWire

/-! JSON data survives as a literal.
Data of any depth becomes a canonical expression without calls, whatever its keys are, and is
read back from it.
-/

namespace Catalog

namespace Expr

-----------------------------------------------------------------------------------------
-- Literals
-----------------------------------------------------------------------------------------

/-- An expression is canonical at its top and calls no function there. -/
def LiteralTop : Expr → Prop
  | call _ _ => False
  | expr => expr.CanonicalTop

/-- An expression is canonical and calls no function at any depth. -/
def Literal (expr : Expr) : Prop :=
  expr.Everywhere LiteralTop

/-- What is a literal at its top is canonical there, by cases of the expression. -/
theorem LiteralTop.canonicalTop (expr : Expr) (literal : expr.LiteralTop)
    : expr.CanonicalTop := by
  cases expr with
  | call _ _ => exact literal.elim
  | null | bool _ | int _ | uint _ | float _ | string _ | array _ | object _ => exact literal

/-- A literal is canonical. -/
theorem Literal.canonical {expr : Expr} (literal : expr.Literal) : expr.Canonical :=
  Everywhere.mono LiteralTop.canonicalTop expr literal

/-- A number becomes a literal, by the kind of literal that it becomes. -/
theorem ofNumber_literal (number : Json.Number) : (ofNumber number).Literal := by
  rcases ofNumber_cases number with ⟨value, same, _⟩ | ⟨value, same, large, _⟩
    | ⟨value, same, finite, _⟩
  · exact same ▸ trivial
  · exact same ▸ large
  · exact same ▸ finite

mutual

/-- JSON data becomes a literal, by recursion on the data. -/
theorem ofJson_literal (value : Json) : (ofJson value).Literal := by
  cases value with
  | null | bool _ | string _ => trivial
  | number number => exact ofNumber_literal number
  | array items => exact ⟨trivial, ofItems_literal items⟩
  | object entries => exact ⟨trivial, ofEntries_literal entries⟩

/-- The items of a JSON array become literals. -/
theorem ofItems_literal (items : List Json) : EverywhereInItems LiteralTop (ofItems items) := by
  cases items with
  | nil => trivial
  | cons item rest => exact ⟨ofJson_literal item, ofItems_literal rest⟩

/-- The values of a JSON object become literals. -/
theorem ofEntries_literal (entries : List (String × Json))
    : EverywhereInEntries LiteralTop (ofEntries entries) := by
  cases entries with
  | nil => trivial
  | cons entry rest => exact ⟨ofJson_literal entry.2, ofEntries_literal rest⟩

end

-----------------------------------------------------------------------------------------
-- Reading data back
-----------------------------------------------------------------------------------------

/-- The number of a number's literal is that number, by the kind of literal that it becomes. -/
theorem toJson_ofNumber (number : Json.Number)
    : (ofNumber number).toJson = .ok (.number number) := by
  rcases ofNumber_cases number with ⟨value, same, back⟩ | ⟨value, same, _, back⟩
    | ⟨value, same, _, back⟩
  all_goals
    rw [same, toJson, back]

mutual

/-- The data of the literal of JSON data is that data, by recursion on it. -/
theorem toJson_ofJson (value : Json) : (ofJson value).toJson = .ok value := by
  cases value with
  | null | bool _ | string _ => rfl
  | number number => exact toJson_ofNumber number
  | array items =>
      simp only [ofJson, toJson, toJsonItems_ofItems items]
      rfl
  | object entries =>
      simp only [ofJson, toJson, toJsonEntries_ofEntries entries]
      rfl

/-- The data of the literals of items is those items. -/
theorem toJsonItems_ofItems (items : List Json) : toJsonItems (ofItems items) = .ok items := by
  cases items with
  | nil => rfl
  | cons item rest =>
      simp only [ofItems, toJsonItems, toJson_ofJson item, toJsonItems_ofItems rest]
      rfl

/-- The data of the literals of an object's values is those values, under the same keys. -/
theorem toJsonEntries_ofEntries (entries : List (String × Json))
    : toJsonEntries (ofEntries entries) = .ok entries := by
  cases entries with
  | nil => rfl
  | cons entry rest =>
      obtain ⟨key, value⟩ := entry
      simp only [ofEntries, toJsonEntries, toJson_ofJson value, toJsonEntries_ofEntries rest]
      rfl

end

/-- An object is read back from its literal. -/
theorem toObject_ofObject (entries : JsonObject) : (ofObject entries).toObject = .ok entries := by
  have data : (ofObject entries).toJson = .ok (.object entries) := toJson_ofJson (.object entries)
  rw [toObject, data]
  rfl

/-- The literal of an object is canonical. -/
theorem ofObject_canonical (entries : JsonObject) : (ofObject entries).Canonical :=
  (ofJson_literal (.object entries)).canonical

end Expr

end Catalog
