/-! Values under names, each name once, in the order of the names' code points.
Inserting keeps that order and replaces the value of a name that is already there, so two
collections of entries with the same content are the same list.
-/

namespace Catalog

universe u

/-- Values under names. The functions below keep the names in order and distinct. -/
abbrev Entries (α : Type u) := List (String × α)

namespace Entries

variable {α : Type u}

/-- Puts a value under a name, in place of any value it had. -/
def insert (name : String) (value : α) : Entries α → Entries α
  | [] => [(name, value)]
  | (key, old) :: rest =>
    if name < key then (name, value) :: (key, old) :: rest
    else if name = key then (name, value) :: rest
    else (key, old) :: insert name value rest

/-- Collects pairs from left to right, so that the last value of a repeated name wins. -/
def ofList (pairs : List (String × α)) : Entries α :=
  pairs.foldl (fun entries pair => insert pair.1 pair.2 entries) []

/-- The value under a name. -/
def find? (name : String) : Entries α → Option α
  | [] => none
  | (key, value) :: rest => if name = key then some value else find? name rest

/-- The names, in order. -/
def names (entries : Entries α) : List String :=
  entries.map Prod.fst

/-- Whether a value stands under the name. -/
def contains (name : String) (entries : Entries α) : Bool :=
  (entries.find? name).isSome

/-- A name is looked up in the first of two concatenated lists, and in the second one only if it
is missing there; by induction on the first.
-/
theorem find?_append (name : String) (left right : Entries α)
    : find? name (left ++ right) = (left.find? name).or (right.find? name) := by
  induction left with
  | nil => rfl
  | cons entry rest ih =>
      obtain ⟨key, value⟩ := entry
      by_cases found : name = key <;> simp [find?, found, ih]

/-- A name just inserted holds the new value, by recursion along the entries. -/
theorem find?_insert_self (name : String) (value : α) (entries : Entries α)
    : (entries.insert name value).find? name = some value := by
  fun_induction insert name value entries with
  | case1 => simp [find?]
  | case2 => simp [find?]
  | case3 => simp [find?]
  | case4 key old rest _ distinct ih => simp [find?, distinct, ih]

/-- Inserting leaves every other name alone, by recursion along the entries. -/
theorem find?_insert_of_ne {other name : String} (distinct : other ≠ name) (value : α)
    (entries : Entries α)
    : (entries.insert name value).find? other = entries.find? other := by
  fun_induction insert name value entries with
  | case1 => simp [find?, distinct]
  | case2 => simp [find?, distinct]
  | case3 => simp [find?, distinct]
  | case4 key old rest _ _ ih => simp [find?, ih]

end Entries

end Catalog
