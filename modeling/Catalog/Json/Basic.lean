import Catalog.Entries
import Catalog.Number.Word

/-! JSON values. Integers of up to 64 bits are kept exact and apart from floats; an object is
kept as its entries in key order.
-/

namespace Catalog

/-- A JSON number: an integer that fits a signed or an unsigned 64-bit word, or a finite
float.
-/
inductive Json.Number
  | int (value : Int) (fits : Number.FitsWord value)
  | float (value : Float) (finite : value.isFinite = true)
  deriving DecidableEq

/-- A JSON value. -/
inductive Json
  | null
  | bool (value : Bool)
  | number (value : Json.Number)
  | string (value : String)
  | array (items : List Json)
  | object (entries : List (String × Json))

/-- The entries of a JSON object. -/
abbrev JsonObject := Entries Json

namespace Json

instance : Inhabited Json := ⟨null⟩

mutual

/-- Equality of JSON values, by recursion on both. -/
def decEq : (left right : Json) → Decidable (left = right)
  | null, null => isTrue rfl
  | bool a, bool b => decidable_of_iff (a = b) (by simp)
  | number a, number b => decidable_of_iff (a = b) (by simp)
  | string a, string b => decidable_of_iff (a = b) (by simp)
  | array a, array b =>
    match decEqItems a b with
    | isTrue same => isTrue (by rw [same])
    | isFalse differ => isFalse (by simpa using differ)
  | object a, object b =>
    match decEqEntries a b with
    | isTrue same => isTrue (by rw [same])
    | isFalse differ => isFalse (by simpa using differ)
  | null, bool _ | null, number _ | null, string _ | null, array _ | null, object _
  | bool _, null | bool _, number _ | bool _, string _ | bool _, array _ | bool _, object _
  | number _, null | number _, bool _ | number _, string _ | number _, array _
  | number _, object _
  | string _, null | string _, bool _ | string _, number _ | string _, array _
  | string _, object _
  | array _, null | array _, bool _ | array _, number _ | array _, string _
  | array _, object _
  | object _, null | object _, bool _ | object _, number _ | object _, string _
  | object _, array _ => isFalse nofun

/-- Equality of arrays, item by item. -/
def decEqItems : (left right : List Json) → Decidable (left = right)
  | [], [] => isTrue rfl
  | a :: as, b :: bs =>
    match decEq a b, decEqItems as bs with
    | isTrue head, isTrue tail => isTrue (by rw [head, tail])
    | isFalse head, _ => isFalse (by simp [head])
    | _, isFalse tail => isFalse (by simp [tail])
  | [], _ :: _ | _ :: _, [] => isFalse nofun

/-- Equality of objects, entry by entry. -/
def decEqEntries : (left right : List (String × Json)) → Decidable (left = right)
  | [], [] => isTrue rfl
  | (k, a) :: as, (l, b) :: bs =>
    if key : k = l then
      match decEq a b, decEqEntries as bs with
      | isTrue head, isTrue tail => isTrue (by rw [key, head, tail])
      | isFalse head, _ => isFalse (by simp [head])
      | _, isFalse tail => isFalse (by simp [tail])
    else isFalse (by simp [key])
  | [], _ :: _ | _ :: _, [] => isFalse nofun

end

instance : DecidableEq Json := decEq

end Json

end Catalog
