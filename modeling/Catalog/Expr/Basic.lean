import Catalog.Entries

/-! Expressions of the database's query language.
Schema operations are built as expressions and handed to a database for execution.
-/

namespace Catalog

/-- An expression: a literal, or a function call. Integers up to `2 ^ 63 - 1` are signed; larger
ones are unsigned.
-/
inductive Expr
  | null
  | bool (value : Bool)
  | int (value : Int64)
  | uint (value : UInt64)
  | float (value : Float)
  | string (value : String)
  | array (items : List Expr)
  | object (entries : List (String × Expr))
  | call (function : String) (argument : Expr)

/-- What an expression is called in messages. -/
inductive Expr.Kind
  | null
  | bool
  | int
  | float
  | string
  | array
  | object
  | call
  deriving DecidableEq, Repr

/-- The word for a kind. -/
def Expr.Kind.word : Expr.Kind → String
  | null => "null"
  | bool => "bool"
  | int => "int"
  | float => "float"
  | string => "string"
  | array => "array"
  | object => "object"
  | call => "call"

namespace Expr

instance : Inhabited Expr := ⟨null⟩

/-- The kind of an expression; both sorts of integers are of one kind. -/
def kind : Expr → Kind
  | null => .null
  | bool _ => .bool
  | int _ | uint _ => .int
  | float _ => .float
  | string _ => .string
  | array _ => .array
  | object _ => .object
  | call _ _ => .call

/-- The text of a string literal. -/
def string? : Expr → Option String
  | string value => some value
  | _ => none

/-- The value of a Boolean literal. -/
def bool? : Expr → Option Bool
  | bool value => some value
  | _ => none

/-- The value of a signed integer literal. -/
def int? : Expr → Option Int64
  | int value => some value
  | _ => none

/-- The items of an array literal. -/
def array? : Expr → Option (List Expr)
  | array items => some items
  | _ => none

/-- The entries of an object literal. -/
def object? : Expr → Option (Entries Expr)
  | object entries => some entries
  | _ => none

/-- The argument of a call to the given function. -/
def argumentOf? (function : String) : Expr → Option Expr
  | call name argument => if name = function then some argument else none
  | _ => none

/-- The function that refers to a collection by its name. -/
def collectionFunction : String := "collection"

/-- The function that refers to an index by its name. -/
def indexFunction : String := "index"

/-- A reference to a collection. -/
def collection (name : String) : Expr :=
  call collectionFunction (string name)

/-- A reference to an index. -/
def index (name : String) : Expr :=
  call indexFunction (string name)

mutual

/-- Equality of expressions, by recursion on both. -/
def decEq : (left right : Expr) → Decidable (left = right)
  | null, null => isTrue rfl
  | bool a, bool b => decidable_of_iff (a = b) (by simp)
  | int a, int b => decidable_of_iff (a = b) (by simp)
  | uint a, uint b => decidable_of_iff (a = b) (by simp)
  | float a, float b => decidable_of_iff (a = b) (by simp)
  | string a, string b => decidable_of_iff (a = b) (by simp)
  | array a, array b =>
    match decEqItems a b with
    | isTrue same => isTrue (by rw [same])
    | isFalse differ => isFalse (by simpa using differ)
  | object a, object b =>
    match decEqEntries a b with
    | isTrue same => isTrue (by rw [same])
    | isFalse differ => isFalse (by simpa using differ)
  | call f a, call g b =>
    if name : f = g then
      match decEq a b with
      | isTrue same => isTrue (by rw [name, same])
      | isFalse differ => isFalse (by simp [differ])
    else isFalse (by simp [name])
  | null, bool _ | null, int _ | null, uint _ | null, float _ | null, string _ | null, array _
  | null, object _ | null, call _ _
  | bool _, null | bool _, int _ | bool _, uint _ | bool _, float _ | bool _, string _
  | bool _, array _ | bool _, object _ | bool _, call _ _
  | int _, null | int _, bool _ | int _, uint _ | int _, float _ | int _, string _
  | int _, array _ | int _, object _ | int _, call _ _
  | uint _, null | uint _, bool _ | uint _, int _ | uint _, float _ | uint _, string _
  | uint _, array _ | uint _, object _ | uint _, call _ _
  | float _, null | float _, bool _ | float _, int _ | float _, uint _ | float _, string _
  | float _, array _ | float _, object _ | float _, call _ _
  | string _, null | string _, bool _ | string _, int _ | string _, uint _ | string _, float _
  | string _, array _ | string _, object _ | string _, call _ _
  | array _, null | array _, bool _ | array _, int _ | array _, uint _ | array _, float _
  | array _, string _ | array _, object _ | array _, call _ _
  | object _, null | object _, bool _ | object _, int _ | object _, uint _ | object _, float _
  | object _, string _ | object _, array _ | object _, call _ _
  | call _ _, null | call _ _, bool _ | call _ _, int _ | call _ _, uint _ | call _ _, float _
  | call _ _, string _ | call _ _, array _ | call _ _, object _ => isFalse nofun

/-- Equality of arrays, item by item. -/
def decEqItems : (left right : List Expr) → Decidable (left = right)
  | [], [] => isTrue rfl
  | a :: as, b :: bs =>
    match decEq a b, decEqItems as bs with
    | isTrue head, isTrue tail => isTrue (by rw [head, tail])
    | isFalse head, _ => isFalse (by simp [head])
    | _, isFalse tail => isFalse (by simp [tail])
  | [], _ :: _ | _ :: _, [] => isFalse nofun

/-- Equality of objects, entry by entry. -/
def decEqEntries : (left right : List (String × Expr)) → Decidable (left = right)
  | [], [] => isTrue rfl
  | (k, a) :: as, (l, b) :: bs =>
    if key : k = l then
      match decEq a b, decEqEntries as bs with
      | isTrue head, isTrue tail => isTrue (by rw [key, head, tail])
      | isFalse head, _ => isFalse (by simp [head])
      | _, isFalse tail => isFalse (by simp [tail])
    else isFalse (by simp [key])
  | [], _ :: _ | _ :: _, [] => isFalse nofun

end

instance : DecidableEq Expr := decEq

end Expr

end Catalog
