import Catalog.Entries
import Mathlib.Data.List.Induction
import Mathlib.Data.List.Perm.Basic
import Mathlib.Data.String.Basic

/-! Entries in the order of their names.
Inserting keeps the names in strictly increasing order, and such entries are determined by what
is found under each name.
-/

namespace Catalog.Entries

universe u

variable {α : Type u}

/-- The names of entries stand in strictly increasing order. -/
def Ordered (entries : Entries α) : Prop :=
  entries.Pairwise fun left right => left.1 < right.1

/-- A name that was inserted is found with its new value, and every other name as before. -/
theorem find?_insert (name other : String) (value : α) (entries : Entries α)
    : (entries.insert name value).find? other
      = if other = name then some value else entries.find? other := by
  by_cases same : other = name
  · rw [same, if_pos rfl, find?_insert_self]
  · rw [if_neg same, find?_insert_of_ne same]

/-- Inserting adds its name to the names that are contained. -/
theorem contains_insert (name other : String) (value : α) (entries : Entries α)
    : (entries.insert name value).contains other = true
      ↔ other = name ∨ entries.contains other = true := by
  by_cases same : other = name <;> simp [contains, find?_insert, same]

/-- Every entry after an insertion is the new one or was there before, by recursion along the
entries.
-/
theorem mem_insert {name : String} {value : α} {entries : Entries α} {entry : String × α}
    (member : entry ∈ entries.insert name value)
    : entry = (name, value) ∨ entry ∈ entries := by
  fun_induction insert name value entries with
  | case1 => exact Or.inl (List.mem_singleton.mp member)
  | case2 key old rest _ => exact List.mem_cons.mp member
  | case3 old rest _ =>
      rcases List.mem_cons.mp member with new | old
      · exact Or.inl new
      · exact Or.inr (List.mem_cons_of_mem _ old)
  | case4 key old rest _ _ ih =>
      rcases List.mem_cons.mp member with first | later
      · exact Or.inr (first ▸ List.mem_cons_self)
      · exact (ih later).imp_right (List.mem_cons_of_mem _)

/-- Inserting under a new name adds one entry, by recursion along the entries. -/
theorem length_insert {name : String} {entries : Entries α}
    (new : ¬entries.contains name = true) (value : α)
    : (entries.insert name value).length = entries.length + 1 := by
  fun_induction insert name value entries with
  | case1 => rfl
  | case2 => rfl
  | case3 => simp [contains, find?] at new
  | case4 key old rest _ distinct ih =>
      have later : ¬contains name rest = true := by simpa [contains, find?, distinct] using new
      rw [List.length_cons, List.length_cons, ih later]

/-- Inserting keeps names in order, by recursion along the entries. -/
theorem Ordered.insert {entries : Entries α} (ordered : entries.Ordered) (name : String)
    (value : α)
    : (entries.insert name value).Ordered := by
  fun_induction Entries.insert name value entries with
  | case1 => exact List.pairwise_singleton _ _
  | case2 key old rest smaller =>
      refine List.pairwise_cons.mpr ⟨?_, ordered⟩
      intro entry member
      rcases List.mem_cons.mp member with first | later
      · exact first ▸ smaller
      · exact smaller.trans ((List.pairwise_cons.mp ordered).1 entry later)
  | case3 old rest _ => exact List.pairwise_cons.mpr (List.pairwise_cons.mp ordered)
  | case4 key old rest notSmaller distinct ih =>
      obtain ⟨below, ordered⟩ := List.pairwise_cons.mp ordered
      refine List.pairwise_cons.mpr ⟨?_, ih ordered⟩
      intro entry member
      rcases mem_insert member with new | old
      · exact new ▸ lt_of_le_of_ne (not_lt.mp notSmaller) (Ne.symm distinct)
      · exact below entry old

/-- A name that stands below all names of some entries is not found among them, by list
induction.
-/
theorem find?_eq_none_of_below {name : String} {entries : Entries α}
    (below : ∀ entry ∈ entries, name < entry.1)
    : entries.find? name = none := by
  induction entries with
  | nil => rfl
  | cons entry rest ih =>
      obtain ⟨key, value⟩ := entry
      have distinct : name ≠ key := (below (key, value) List.mem_cons_self).ne
      rw [find?, if_neg distinct]
      exact ih fun entry member => below entry (List.mem_cons_of_mem _ member)

/-- A name below the least one of ordered entries is not found among them. -/
theorem Ordered.find?_eq_none {name key : String} {value : α} {rest : Entries α}
    (ordered : Ordered ((key, value) :: rest)) (smaller : name < key)
    : Entries.find? name ((key, value) :: rest) = none := by
  apply find?_eq_none_of_below
  intro entry member
  rcases List.mem_cons.mp member with first | later
  · exact first ▸ smaller
  · exact smaller.trans ((List.pairwise_cons.mp ordered).1 entry later)

/-- Ordered entries are equal if the same is found in them under every name, by induction on
the first ones: the least names on both sides agree, as each is found on the other side.
-/
theorem Ordered.ext {left right : Entries α} (leftOrdered : left.Ordered)
    (rightOrdered : right.Ordered) (same : ∀ name, left.find? name = right.find? name)
    : left = right := by
  induction left generalizing right with
  | nil =>
      cases right with
      | nil => rfl
      | cons entry rest =>
          have found := same entry.1
          simp [find?] at found
  | cons entry rest ih =>
      obtain ⟨key, value⟩ := entry
      obtain ⟨below, restOrdered⟩ := List.pairwise_cons.mp leftOrdered
      cases right with
      | nil =>
          have found := same key
          simp [find?] at found
      | cons entry others =>
          obtain ⟨otherKey, otherValue⟩ := entry
          obtain ⟨otherBelow, othersOrdered⟩ := List.pairwise_cons.mp rightOrdered
          have keys : key = otherKey := by
            rcases lt_trichotomy key otherKey with smaller | equal | greater
            · have found := same key
              rw [rightOrdered.find?_eq_none smaller] at found
              simp [find?] at found
            · exact equal
            · have found := same otherKey
              rw [leftOrdered.find?_eq_none greater] at found
              simp [find?] at found
          subst keys
          have values : value = otherValue := by simpa [find?] using same key
          have rests : rest = others := by
            apply ih restOrdered othersOrdered
            intro name
            by_cases first : name = key
            · rw [first, find?_eq_none_of_below below, find?_eq_none_of_below otherBelow]
            · simpa [find?, first] using same name
          rw [values, rests]

/-- Every value stands under its own name. -/
def NamedBy (name : α → String) (entries : Entries α) : Prop :=
  ∀ key value, entries.find? key = some value → name value = key

/-- Inserting a value under its own name leaves all values under their own names. -/
theorem NamedBy.insert {name : α → String} {entries : Entries α} (named : NamedBy name entries)
    (value : α)
    : NamedBy name (entries.insert (name value) value) := by
  intro key other found
  rw [find?_insert] at found
  split at found
  case isTrue same => exact Option.some.inj found ▸ same.symm
  case isFalse => exact named key other found

/-- What is found under a name in the first entries is also found there in the second ones. -/
def Within (entries later : Entries α) : Prop :=
  ∀ name value, entries.find? name = some value → later.find? name = some value

/-- Inserting under a new name changes nothing that was found before. -/
theorem within_insert {name : String} {entries : Entries α}
    (new : ¬entries.contains name = true) (value : α)
    : entries.Within (entries.insert name value) := by
  intro other old found
  have distinct : other ≠ name := by
    rintro rfl
    simp [contains, found] at new
  rw [find?_insert_of_ne distinct, found]

-----------------------------------------------------------------------------------------
-- Several insertions
-----------------------------------------------------------------------------------------

/-- Inserts items one after another, each under its own name. -/
def insertAll (name : α → String) (items : List α) (entries : Entries α) : Entries α :=
  items.foldl (fun entries item => entries.insert (name item) item) entries

/-- Inserting items keeps names in order, by induction on the items. -/
theorem Ordered.insertAll {entries : Entries α} (ordered : entries.Ordered)
    (name : α → String) (items : List α)
    : (Entries.insertAll name items entries).Ordered := by
  induction items generalizing entries with
  | nil => exact ordered
  | cons item rest ih => exact ih (ordered.insert (name item) item)

/-- The names of items are pairwise distinct, and none of them is found among some entries. -/
structure Fresh (name : α → String) (items : List α) (entries : Entries α) : Prop where
  distinct : (items.map name).Nodup
  new : ∀ item ∈ items, entries.find? (name item) = none

/-- No items are always fresh. -/
theorem fresh_nil (name : α → String) (entries : Entries α) : Fresh name [] entries :=
  ⟨List.nodup_nil, fun _ member => nomatch member⟩

/-- Items are fresh if the first one is new and the others are fresh once it is inserted. -/
theorem fresh_cons {name : α → String} {item : α} {rest : List α} {entries : Entries α}
    : Fresh name (item :: rest) entries
      ↔ ¬entries.contains (name item) = true
        ∧ Fresh name rest (entries.insert (name item) item) := by
  constructor
  · rintro ⟨distinct, new⟩
    obtain ⟨apart, distinct⟩ := List.nodup_cons.mp distinct
    refine ⟨by simp [contains, new item List.mem_cons_self], distinct, ?_⟩
    intro other member
    have other_ne : name other ≠ name item :=
      fun same => apart (same ▸ List.mem_map_of_mem member)
    rw [find?_insert_of_ne other_ne]
    exact new other (List.mem_cons_of_mem _ member)
  · rintro ⟨missing, distinct, new⟩
    have other_ne : ∀ other ∈ rest, name other ≠ name item := by
      intro other member same
      have found := new other member
      rw [same, find?_insert_self] at found
      simp at found
    refine ⟨List.nodup_cons.mpr ⟨?_, distinct⟩, ?_⟩
    · intro member
      obtain ⟨other, member, same⟩ := List.mem_map.mp member
      exact other_ne other member same
    · intro other member
      rcases List.mem_cons.mp member with rfl | later
      · simpa [contains] using missing
      · rw [← find?_insert_of_ne (other_ne other later)]
        exact new other later

/-- Whether items are fresh does not depend on their order. -/
theorem Fresh.perm {name : α → String} {items others : List α} {entries : Entries α}
    (fresh : Fresh name items entries) (same : others.Perm items)
    : Fresh name others entries :=
  ⟨(same.map name).nodup_iff.mpr fresh.distinct,
    fun item member => fresh.new item (same.mem_iff.mp member)⟩

/-- Fresh items are added to what is found, and nothing else changes; by induction on the
items.
-/
theorem Fresh.find?_insertAll {name : α → String} {items : List α} {entries : Entries α}
    (fresh : Fresh name items entries) (key : String) (value : α)
    : (Entries.insertAll name items entries).find? key = some value
      ↔ value ∈ items ∧ name value = key ∨ entries.find? key = some value := by
  induction items generalizing entries with
  | nil => simp [Entries.insertAll]
  | cons item rest ih =>
      obtain ⟨missing, later⟩ := fresh_cons.mp fresh
      have unfound : entries.find? (name item) = none := fresh.new item List.mem_cons_self
      rw [Entries.insertAll, List.foldl_cons, ← Entries.insertAll, ih later, find?_insert,
        List.mem_cons]
      by_cases same : key = name item
      · subst same
        rw [if_pos rfl, unfound]
        constructor
        · rintro (⟨member, named⟩ | added)
          · exact Or.inl ⟨Or.inr member, named⟩
          · obtain rfl := Option.some.inj added
            exact Or.inl ⟨Or.inl rfl, rfl⟩
        · rintro (⟨rfl | member, named⟩ | found)
          · exact Or.inr rfl
          · exact Or.inl ⟨member, named⟩
          · simp at found
      · rw [if_neg same]
        constructor
        · rintro (⟨member, named⟩ | found)
          · exact Or.inl ⟨Or.inr member, named⟩
          · exact Or.inr found
        · rintro (⟨rfl | member, named⟩ | found)
          · exact (same named.symm).elim
          · exact Or.inl ⟨member, named⟩
          · exact Or.inr found

-----------------------------------------------------------------------------------------
-- Collecting pairs
-----------------------------------------------------------------------------------------

/-- A name above all others is inserted at the end, by list induction. -/
theorem insert_of_above {name : String} {entries : Entries α}
    (above : ∀ entry ∈ entries, entry.1 < name) (value : α)
    : entries.insert name value = entries ++ [(name, value)] := by
  induction entries with
  | nil => rfl
  | cons entry rest ih =>
      obtain ⟨key, old⟩ := entry
      have greater : key < name := above (key, old) List.mem_cons_self
      rw [insert, if_neg greater.not_gt, if_neg greater.ne',
        ih fun entry member => above entry (List.mem_cons_of_mem _ member), List.cons_append]

/-- Ordered pairs that stand above the entries so far are collected after them, by induction on
the pairs.
-/
theorem Ordered.foldl_insert {entries pairs : Entries α} (ordered : Ordered (entries ++ pairs))
    : pairs.foldl (fun entries pair => entries.insert pair.1 pair.2) entries
      = entries ++ pairs := by
  induction pairs generalizing entries with
  | nil => exact (List.append_nil entries).symm
  | cons pair rest ih =>
      have above : ∀ entry ∈ entries, entry.1 < pair.1 := fun entry member =>
        (List.pairwise_append.mp ordered).2.2 entry member pair List.mem_cons_self
      rw [List.append_cons] at ordered ⊢
      rw [List.foldl_cons, insert_of_above above, ih ordered]

/-- Pairs that are in order are collected as they are. -/
theorem Ordered.ofList_eq {pairs : Entries α} (ordered : pairs.Ordered) : ofList pairs = pairs :=
  foldl_insert ordered

/-- Collected pairs are in order, by induction on the pairs from the last one. -/
theorem ordered_ofList (pairs : List (String × α)) : (ofList pairs).Ordered := by
  induction pairs using List.reverseRecOn with
  | nil => exact .nil
  | append_singleton pairs pair ih =>
      rw [ofList, List.foldl_append]
      exact ih.insert pair.1 pair.2

/-- Every collected entry is one of the pairs, by induction on the pairs from the last one. -/
theorem mem_of_mem_ofList {pairs : List (String × α)} {entry : String × α}
    (member : entry ∈ ofList pairs)
    : entry ∈ pairs := by
  induction pairs using List.reverseRecOn with
  | nil => exact member
  | append_singleton pairs pair ih =>
      rw [ofList, List.foldl_append] at member
      rcases mem_insert member with new | old
      · exact List.mem_append_right _ (List.mem_singleton.mpr new)
      · exact List.mem_append_left _ (ih old)

end Catalog.Entries
