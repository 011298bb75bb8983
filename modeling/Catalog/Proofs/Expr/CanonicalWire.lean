import Catalog.Expr.Data
import Catalog.Proofs.Outcome

/-! Which expressions the wire form carries unchanged.
Reading inverts rendering on canonical expressions, and nothing but a rendered canonical
expression can be read.
-/

namespace Catalog

open Outcome

namespace Expr

-----------------------------------------------------------------------------------------
-- Canonical expressions
-----------------------------------------------------------------------------------------

mutual

/-- The predicate holds of an expression and of every expression inside it. -/
def Everywhere (holds : Expr → Prop) : Expr → Prop
  | null => holds null
  | bool value => holds (bool value)
  | int value => holds (int value)
  | uint value => holds (uint value)
  | float value => holds (float value)
  | string value => holds (string value)
  | array items => holds (array items) ∧ EverywhereInItems holds items
  | object entries => holds (object entries) ∧ EverywhereInEntries holds entries
  | call function argument => holds (call function argument) ∧ argument.Everywhere holds

/-- The predicate holds everywhere in each item. -/
def EverywhereInItems (holds : Expr → Prop) : List Expr → Prop
  | [] => True
  | item :: rest => item.Everywhere holds ∧ EverywhereInItems holds rest

/-- The predicate holds everywhere in each value. -/
def EverywhereInEntries (holds : Expr → Prop) : List (String × Expr) → Prop
  | [] => True
  | (_, value) :: rest => value.Everywhere holds ∧ EverywhereInEntries holds rest

end

/-- An expression is canonical at its top: an unsigned integer is too large for a signed one,
a float is finite, and a call is not mistaken for an object literal.
-/
def CanonicalTop : Expr → Prop
  | uint value => Int64.maxValue.toInt < value.toNat
  | float value => value.isFinite = true
  | call function _ => function ≠ objectKey
  | null | bool _ | int _ | string _ | array _ | object _ => True

/-- An expression is canonical at every depth. -/
def Canonical (expr : Expr) : Prop :=
  expr.Everywhere CanonicalTop

/-- Every item of a list is canonical. -/
abbrev CanonicalItems (items : List Expr) : Prop :=
  EverywhereInItems CanonicalTop items

/-- Every value of a list of entries is canonical. -/
abbrev CanonicalEntries (entries : List (String × Expr)) : Prop :=
  EverywhereInEntries CanonicalTop entries

/-- A predicate holds everywhere in concatenated entries if it does in both parts, by
induction on the first.
-/
theorem everywhereInEntries_append {holds : Expr → Prop} (left right : List (String × Expr))
    : EverywhereInEntries holds (left ++ right)
      ↔ EverywhereInEntries holds left ∧ EverywhereInEntries holds right := by
  induction left with
  | nil => simp [EverywhereInEntries]
  | cons entry rest ih => simp [EverywhereInEntries, ih, and_assoc]

/-- A predicate holds everywhere in a list of items if it does in each of them, by list
induction.
-/
theorem everywhereInItems_iff {holds : Expr → Prop} (items : List Expr)
    : EverywhereInItems holds items ↔ ∀ item ∈ items, item.Everywhere holds := by
  induction items with
  | nil => simp [EverywhereInItems]
  | cons item rest ih => simp [EverywhereInItems, ih]

mutual

/-- A weaker predicate holds everywhere that a stronger one does, by recursion on the
expression.
-/
theorem Everywhere.mono {strong weak : Expr → Prop} (weaken : ∀ expr, strong expr → weak expr)
    (expr : Expr) (everywhere : expr.Everywhere strong)
    : expr.Everywhere weak := by
  cases expr with
  | null | bool _ | int _ | uint _ | float _ | string _ => exact weaken _ everywhere
  | array items => exact ⟨weaken _ everywhere.1, EverywhereInItems.mono weaken items everywhere.2⟩
  | object entries =>
      exact ⟨weaken _ everywhere.1, EverywhereInEntries.mono weaken entries everywhere.2⟩
  | call function argument =>
      exact ⟨weaken _ everywhere.1, Everywhere.mono weaken argument everywhere.2⟩

/-- A weaker predicate holds everywhere in items in which a stronger one does. -/
theorem EverywhereInItems.mono {strong weak : Expr → Prop}
    (weaken : ∀ expr, strong expr → weak expr) (items : List Expr)
    (everywhere : EverywhereInItems strong items)
    : EverywhereInItems weak items := by
  cases items with
  | nil => trivial
  | cons item rest =>
      exact ⟨Everywhere.mono weaken item everywhere.1,
        EverywhereInItems.mono weaken rest everywhere.2⟩

/-- A weaker predicate holds everywhere in entries in which a stronger one does. -/
theorem EverywhereInEntries.mono {strong weak : Expr → Prop}
    (weaken : ∀ expr, strong expr → weak expr) (entries : List (String × Expr))
    (everywhere : EverywhereInEntries strong entries)
    : EverywhereInEntries weak entries := by
  cases entries with
  | nil => trivial
  | cons entry rest =>
      exact ⟨Everywhere.mono weaken entry.2 everywhere.1,
        EverywhereInEntries.mono weaken rest everywhere.2⟩

end

-----------------------------------------------------------------------------------------
-- Numbers
-----------------------------------------------------------------------------------------

/-- An integer that a signed word holds becomes that word. -/
theorem ofNumber_signed {value : Int} {word : Int64} (held : Number.int64? value = some word)
    (fits : Number.FitsWord value)
    : ofNumber (.int value fits) = int word := by
  simp only [ofNumber, held]

/-- An integer that no signed word holds becomes an unsigned word. -/
theorem ofNumber_unsigned {value : Int} (unheld : Number.int64? value = none)
    (fits : Number.FitsWord value)
    : ofNumber (.int value fits) = uint (UInt64.ofNat value.toNat) := by
  simp only [ofNumber, unheld]

/-- A number becomes a canonical literal that stands for the same number, by the word that
holds it.
-/
theorem ofNumber_cases (number : Json.Number)
    : (∃ value, ofNumber number = int value ∧ Json.ofInt64 value = .number number)
      ∨ (∃ value, ofNumber number = uint value ∧ Int64.maxValue.toInt < value.toNat
          ∧ Json.ofUInt64 value = .number number)
      ∨ (∃ value, ofNumber number = float value ∧ value.isFinite = true
          ∧ Json.ofFloat value = .number number) := by
  cases number with
  | int value fits =>
      cases word : Number.int64? value with
      | some signed =>
          have same := Number.int64?_eq_some_iff.mp word
          exact Or.inl ⟨signed, ofNumber_signed word fits, by simp only [Json.ofInt64, same]⟩
      | none =>
          have large : 9223372036854775807 < value := by
            rcases Number.int64?_eq_none_iff.mp word with low | high
            · exact absurd fits.1 (by omega)
            · omega
          have held : Number.uint64? value = some (UInt64.ofNat value.toNat) :=
            if_pos ⟨by omega, fits.2⟩
          have same := Number.uint64?_eq_some_iff.mp held
          refine Or.inr (Or.inl ⟨UInt64.ofNat value.toNat, ofNumber_unsigned word fits, ?_, ?_⟩)
          · rw [same, Int64.toInt_maxValue]
            omega
          · simp only [Json.ofUInt64, same]
  | float value finite =>
      exact Or.inr (Or.inr ⟨value, rfl, finite, by simp only [Json.ofFloat, finite, dif_pos]⟩)

/-- The number of a signed integer becomes that integer again. -/
theorem ofNumber_toInt (value : Int64) (fits : Number.FitsWord value.toInt)
    : ofNumber (.int value.toInt fits) = int value :=
  ofNumber_signed (Number.int64?_eq_some_iff.mpr rfl) fits

/-- The number of an unsigned integer that is too large for a signed one becomes that integer
again.
-/
theorem ofNumber_toNat {value : UInt64} (large : Int64.maxValue.toInt < value.toNat)
    (fits : Number.FitsWord value.toNat)
    : ofNumber (.int value.toNat fits) = uint value := by
  rw [Int64.toInt_maxValue] at large
  have unheld : Number.int64? value.toNat = none :=
    Number.int64?_eq_none_iff.mpr (Or.inr (by omega))
  rw [ofNumber_unsigned unheld, Int.toNat_natCast, UInt64.ofNat_toNat]

-----------------------------------------------------------------------------------------
-- Reading what was rendered
-----------------------------------------------------------------------------------------

/-- A single entry under another key than that of literals is read as a call. -/
theorem ofWire_call {function : String} (ordinary : function ≠ objectKey) (argument : Json)
    : ofWire (.object [(function, argument)]) = return call function (← ofWire argument) := by
  cases argument <;> simp only [ofWire, if_neg ordinary]

/-- An object in the wrapper of literals is read entry by entry. -/
theorem ofWire_object (entries : List (String × Json))
    : ofWire (.object [(objectKey, .object entries)])
      = return object (← ofWireEntries entries) := by
  simp only [ofWire, if_true]

mutual

/-- The wire form of a canonical expression reads as that expression, by recursion on it. -/
theorem ofWire_toWire (expr : Expr) (canonical : expr.Canonical)
    : ofWire expr.toWire = .ok expr := by
  cases expr with
  | null => rfl
  | bool value => rfl
  | int value =>
      exact congrArg Except.ok (ofNumber_toInt value _)
  | uint value =>
      exact congrArg Except.ok (ofNumber_toNat canonical _)
  | float value =>
      have finite : value.isFinite = true := canonical
      simp only [toWire, Json.ofFloat, dif_pos finite, ofWire, ofNumber]
  | string value => rfl
  | array items =>
      simp only [toWire, ofWire, ofWireItems_toWireItems items canonical.2]
      rfl
  | object entries =>
      rw [toWire, ofWire_object, ofWireEntries_toWireEntries entries canonical.2]
      rfl
  | call function argument =>
      rw [toWire, ofWire_call canonical.1, ofWire_toWire argument canonical.2]
      rfl

/-- The wire forms of canonical items read as those items. -/
theorem ofWireItems_toWireItems (items : List Expr) (canonical : CanonicalItems items)
    : ofWireItems (toWireItems items) = .ok items := by
  cases items with
  | nil => rfl
  | cons item rest =>
      simp only [toWireItems, ofWireItems, ofWire_toWire item canonical.1,
        ofWireItems_toWireItems rest canonical.2]
      rfl

/-- The wire forms of canonical values read as those values, under the same keys. -/
theorem ofWireEntries_toWireEntries (entries : List (String × Expr))
    (canonical : CanonicalEntries entries)
    : ofWireEntries (toWireEntries entries) = .ok entries := by
  cases entries with
  | nil => rfl
  | cons entry rest =>
      obtain ⟨key, value⟩ := entry
      simp only [toWireEntries, ofWireEntries, ofWire_toWire value canonical.1,
        ofWireEntries_toWireEntries rest canonical.2]
      rfl

end

-----------------------------------------------------------------------------------------
-- Rendering what was read
-----------------------------------------------------------------------------------------

mutual

/-- What is read is canonical and renders to what it was read from, by recursion on the wire
form.
-/
theorem toWire_of_ofWire (wire : Json) (expr : Expr) (read : ofWire wire = .ok expr)
    : expr.Canonical ∧ expr.toWire = wire := by
  cases wire with
  | null =>
      obtain rfl := Except.ok.inj read
      exact ⟨trivial, rfl⟩
  | bool value =>
      obtain rfl := Except.ok.inj read
      exact ⟨trivial, rfl⟩
  | number number =>
      obtain rfl := Except.ok.inj read
      rcases ofNumber_cases number with ⟨value, same, number⟩ | ⟨value, same, large, number⟩
        | ⟨value, same, finite, number⟩
      · exact same ▸ ⟨trivial, number⟩
      · exact same ▸ ⟨large, number⟩
      · exact same ▸ ⟨finite, number⟩
  | string value =>
      obtain rfl := Except.ok.inj read
      exact ⟨trivial, rfl⟩
  | array wires =>
      simp only [ofWire] at read
      obtain ⟨items, readItems, done⟩ := bind_eq_ok.mp read
      obtain rfl := pure_eq_ok.mp done
      obtain ⟨canonical, same⟩ := toWireItems_of_ofWireItems wires items readItems
      exact ⟨⟨trivial, canonical⟩, by rw [toWire, same]⟩
  | object wires =>
      match wires with
      | [(key, value)] =>
          by_cases wrapper : key = objectKey
          · subst wrapper
            cases value with
            | object wires =>
                rw [ofWire_object] at read
                obtain ⟨entries, readEntries, done⟩ := bind_eq_ok.mp read
                obtain rfl := pure_eq_ok.mp done
                obtain ⟨canonical, same⟩ := toWireEntries_of_ofWireEntries wires entries readEntries
                exact ⟨⟨trivial, canonical⟩, by rw [toWire, same]⟩
            | null | bool _ | number _ | string _ | array _ =>
                simp [ofWire] at read
          · rw [ofWire_call wrapper] at read
            obtain ⟨argument, readArgument, done⟩ := bind_eq_ok.mp read
            obtain rfl := pure_eq_ok.mp done
            obtain ⟨canonical, same⟩ := toWire_of_ofWire value argument readArgument
            exact ⟨⟨wrapper, canonical⟩, by rw [toWire, same]⟩
      | [] | _ :: _ :: _ => simp [ofWire] at read

/-- Items that are read are canonical and render to what they were read from. -/
theorem toWireItems_of_ofWireItems (wires : List Json) (items : List Expr)
    (read : ofWireItems wires = .ok items)
    : CanonicalItems items ∧ toWireItems items = wires := by
  cases wires with
  | nil =>
      obtain rfl := Except.ok.inj read
      exact ⟨trivial, rfl⟩
  | cons wire rest =>
      simp only [ofWireItems] at read
      obtain ⟨item, readItem, read⟩ := bind_eq_ok.mp read
      obtain ⟨items, readItems, done⟩ := bind_eq_ok.mp read
      obtain rfl := pure_eq_ok.mp done
      obtain ⟨headCanonical, head⟩ := toWire_of_ofWire wire item readItem
      obtain ⟨tailCanonical, tail⟩ := toWireItems_of_ofWireItems rest items readItems
      exact ⟨⟨headCanonical, tailCanonical⟩, by rw [toWireItems, head, tail]⟩

/-- Values that are read are canonical and render to what they were read from. -/
theorem toWireEntries_of_ofWireEntries (wires : List (String × Json))
    (entries : List (String × Expr)) (read : ofWireEntries wires = .ok entries)
    : CanonicalEntries entries ∧ toWireEntries entries = wires := by
  cases wires with
  | nil =>
      obtain rfl := Except.ok.inj read
      exact ⟨trivial, rfl⟩
  | cons wire rest =>
      obtain ⟨key, wire⟩ := wire
      simp only [ofWireEntries] at read
      obtain ⟨value, readValue, read⟩ := bind_eq_ok.mp read
      obtain ⟨entries, readEntries, done⟩ := bind_eq_ok.mp read
      obtain rfl := pure_eq_ok.mp done
      obtain ⟨headCanonical, head⟩ := toWire_of_ofWire wire value readValue
      obtain ⟨tailCanonical, tail⟩ := toWireEntries_of_ofWireEntries rest entries readEntries
      exact ⟨⟨headCanonical, tailCanonical⟩, by rw [toWireEntries, head, tail]⟩

end

/-- Reading is the partial inverse of rendering: a wire form reads as an expression exactly if
the expression is canonical and renders to it.
-/
theorem ofWire_eq_ok_iff (wire : Json) (expr : Expr)
    : ofWire wire = .ok expr ↔ expr.Canonical ∧ expr.toWire = wire := by
  constructor
  · exact toWire_of_ofWire wire expr
  · rintro ⟨canonical, rfl⟩
    exact ofWire_toWire expr canonical

end Expr

end Catalog
