import Catalog.Proofs.Json.KeyOrder
import Catalog.Proofs.Outcome
import Catalog.Serialized.Basic

/-! Reading records.
A record that was written member by member is read in the same way. What a record holds in one of
its members comes from the one value that is given for it, by its key or by its position.
-/

namespace Catalog

open Json (Reading)
open Outcome

namespace Member

variable {ν ε δ : Type} {members : List (Member ν ε δ)} {faults : RecordFaults ν ε}
  {seen : List String} {draft result : δ}

-----------------------------------------------------------------------------------------
-- Members under keys
-----------------------------------------------------------------------------------------

/-- The end of a record is reached exactly if no required member is missing. -/
theorem readEntries_nil_eq_ok
    : readEntries members faults seen draft [] = .ok result
      ↔ (∀ member ∈ members, member.required = true → seen.contains member.key = true)
        ∧ draft = result := by
  rw [readEntries]
  cases missing : members.find? fun member => member.required && !seen.contains member.key with
  | none =>
      have given := List.find?_eq_none.mp missing
      simp_all
  | some member =>
      have absent := List.find?_some missing
      simp only [Bool.and_eq_true, Bool.not_eq_true'] at absent
      constructor
      · nofun
      · intro ⟨given, _⟩
        have seen := given member (List.mem_of_find?_eq_some missing) absent.1
        rw [absent.2] at seen
        nomatch seen

/-- The next value of a record is passed over if its key is unknown. Else it is read into the
draft, unless its key was there before.
-/
theorem readEntries_cons_eq_ok {key : Except ε String} {value : ν}
    {rest : List (Except ε String × ν)}
    : readEntries members faults seen draft ((key, value) :: rest) = .ok result
      ↔ ∃ name,
          key = .ok name
          ∧ (members.find? (·.key = name) = none
              ∧ faults.unknown name value = .ok ()
              ∧ readEntries members faults seen draft rest = .ok result
            ∨ ∃ member next,
                members.find? (·.key = name) = some member
                ∧ seen.contains name = false
                ∧ member.read value draft = .ok next
                ∧ readEntries members faults (name :: seen) next rest = .ok result) := by
  rw [readEntries, bind_eq_ok]
  refine exists_congr fun name => and_congr_right fun _ => ?_
  cases known : members.find? (·.key = name) with
  | none => simp [check_bind_eq_ok]
  | some member =>
      cases repeated : seen.contains name with
      | true => simp
      | false => simp [bind_eq_ok]

/-- A value is read into the draft under a known key that was not there before. -/
theorem readEntries_member {member : Member ν ε δ} {key : String} {value : ν} {next : δ}
    {rest : List (Except ε String × ν)} (known : members.find? (·.key = key) = some member)
    (new : seen.contains key = false) (first : member.read value draft = .ok next)
    (others : readEntries members faults (key :: seen) next rest = .ok result)
    : readEntries members faults seen draft ((.ok key, value) :: rest) = .ok result :=
  readEntries_cons_eq_ok.mpr ⟨key, rfl, .inr ⟨member, next, known, new, first, others⟩⟩

/-- What every member keeps is kept by the whole record, by induction on the values given. -/
theorem readEntries_preserves {holds : δ → Prop}
    (each : ∀ member ∈ members, ∀ value before after,
      member.read value before = .ok after → holds before → holds after)
    {given : List (Except ε String × ν)} (start : holds draft)
    (read : readEntries members faults seen draft given = .ok result)
    : holds result := by
  induction given generalizing seen draft with
  | nil => exact (readEntries_nil_eq_ok.mp read).2 ▸ start
  | cons entry rest ih =>
      obtain ⟨name, _, step⟩ := readEntries_cons_eq_ok.mp read
      rcases step with ⟨_, _, rest⟩ | ⟨member, next, known, _, first, rest⟩
      · exact ih start rest
      · exact ih (each member (List.mem_of_find?_eq_some known) _ _ _ first start) rest

-----------------------------------------------------------------------------------------
-- Members by position
-----------------------------------------------------------------------------------------

/-- What every member keeps is kept by the whole record, by recursion along the members. -/
theorem readItems_preserves {missing : Nat → ε} {position : Nat} {holds : δ → Prop}
    (each : ∀ member ∈ members, ∀ value before after,
      member.read value before = .ok after → holds before → holds after)
    {values surplus : List ν} (start : holds draft)
    (read : readItems missing position draft members values = .ok (result, surplus))
    : holds result := by
  induction members generalizing position draft values with
  | nil => cases read; exact start
  | cons member rest ih =>
      rw [List.forall_mem_cons] at each
      cases values with
      | nil =>
          rw [readItems] at read
          split at read
          · nomatch read
          · exact ih each.2 start read
      | cons value values =>
          obtain ⟨next, first, read⟩ := bind_eq_ok.mp read
          exact ih each.2 (each.1 _ _ _ first start) read

-----------------------------------------------------------------------------------------
-- One part of a record
-----------------------------------------------------------------------------------------

/-- One part of a record is read from the member of a key: what that member reads determines the
part, and the other members leave it alone.
-/
structure Determines {φ : Type} (members : List (Member ν ε δ)) (key : String) (part : δ → φ)
    (reads : ν → φ → Prop) : Prop where
  known : ∃ member ∈ members, member.key = key
  own : ∀ member ∈ members, member.key = key →
    ∀ value before after, member.read value before = .ok after → reads value (part after)
  frame : ∀ member ∈ members, member.key ≠ key →
    ∀ value before after, member.read value before = .ok after → part after = part before

variable {φ : Type} {key : String} {part : δ → φ} {reads : ν → φ → Prop}

/-- A value under another key leaves the part alone. A value under its own key is the first one
there, and the part is read from it.
-/
theorem Determines.readEntries_step (determines : Determines members key part reads)
    {given : Except ε String} {value : ν} {rest : List (Except ε String × ν)}
    (read : readEntries members faults seen draft ((given, value) :: rest) = .ok result)
    : ∃ later next,
        readEntries members faults later next rest = .ok result
        ∧ (given ≠ .ok key ∧ later.contains key = seen.contains key ∧ part next = part draft
          ∨ given = .ok key ∧ seen.contains key = false ∧ later.contains key = true
            ∧ reads value (part next)) := by
  obtain ⟨name, rfl, step⟩ := readEntries_cons_eq_ok.mp read
  rcases step with ⟨unknown, _, others⟩ | ⟨member, next, found, new, first, others⟩
  · refine ⟨seen, draft, others, .inl ⟨?_, rfl, rfl⟩⟩
    rintro ⟨⟩
    obtain ⟨member, present, named⟩ := determines.known
    simpa [named] using List.find?_eq_none.mp unknown member present
  · have named : member.key = name := by simpa using List.find?_some found
    have present := List.mem_of_find?_eq_some found
    refine ⟨name :: seen, next, others, ?_⟩
    by_cases same : name = key
    · subst same
      exact .inr ⟨rfl, new, by simp, determines.own member present named _ _ _ first⟩
    · refine .inl ⟨by simpa using same, by simp [Ne.symm same], ?_⟩
      exact determines.frame member present (named ▸ same) _ _ _ first

/-- Once its key has been seen, a part stays as it is and its key does not come again; by
induction on the values given.
-/
theorem Determines.readEntries_seen (determines : Determines members key part reads)
    {given : List (Except ε String × ν)} (present : seen.contains key = true)
    (read : readEntries members faults seen draft given = .ok result)
    : part result = part draft ∧ ∀ value, (.ok key, value) ∉ given := by
  induction given generalizing seen draft with
  | nil => exact ⟨(readEntries_nil_eq_ok.mp read).2 ▸ rfl, nofun⟩
  | cons entry rest ih =>
      obtain ⟨later, next, others, ⟨other, same, kept⟩ | ⟨_, new, _⟩⟩ :=
        determines.readEntries_step read
      · obtain ⟨unchanged, absent⟩ := ih (same.trans present) others
        refine ⟨unchanged.trans kept, fun value member => ?_⟩
        rcases List.mem_cons.mp member with first | member
        · exact other (congrArg Prod.fst first).symm
        · exact absent value member
      · rw [present] at new
        nomatch new

/-- Before its key has been seen, a part is read from the value that is given under its key. If
there is none it stays as it is; by induction on the values given.
-/
theorem Determines.readEntries_unseen (determines : Determines members key part reads)
    {given : List (Except ε String × ν)} (new : seen.contains key = false)
    (read : readEntries members faults seen draft given = .ok result)
    : (∀ value, (.ok key, value) ∈ given → reads value (part result))
      ∧ ((∀ value, (.ok key, value) ∉ given) → part result = part draft) := by
  induction given generalizing seen draft with
  | nil => exact ⟨nofun, fun _ => (readEntries_nil_eq_ok.mp read).2 ▸ rfl⟩
  | cons entry rest ih =>
      obtain ⟨later, next, others, ⟨other, same, kept⟩ | ⟨own, _, present, holds⟩⟩ :=
        determines.readEntries_step read
      · obtain ⟨given, missing⟩ := ih (same.trans new) others
        constructor
        · intro value member
          rcases List.mem_cons.mp member with first | member
          · exact (other (congrArg Prod.fst first).symm).elim
          · exact given value member
        · intro absent
          have later := missing fun value member => absent value (List.mem_cons_of_mem _ member)
          exact later.trans kept
      · obtain ⟨unchanged, absent⟩ := determines.readEntries_seen present others
        constructor
        · intro value member
          rcases List.mem_cons.mp member with first | member
          · cases first
            exact unchanged ▸ holds
          · exact (absent value member).elim
        · intro absent
          exact (absent entry.2 (own ▸ List.mem_cons_self)).elim

/-- Without further values the draft stays as it is, by recursion along the members. -/
theorem readItems_nil {missing : Nat → ε} {position : Nat} {surplus : List ν}
    (read : readItems missing position draft members [] = .ok (result, surplus))
    : result = draft := by
  induction members generalizing position with
  | nil => cases read; rfl
  | cons member rest ih =>
      rw [readItems] at read
      split at read
      · nomatch read
      · exact ih read

/-- A part is read from the value in the place of its member. If there is none it stays as it is;
by recursion along the members.
-/
theorem readItems_determines
    (own : ∀ member ∈ members, member.key = key →
      ∀ value before after, member.read value before = .ok after → reads value (part after))
    (frame : ∀ member ∈ members, member.key ≠ key →
      ∀ value before after, member.read value before = .ok after → part after = part before)
    {place : Nat} (placed : (members.map Member.key)[place]? = some key)
    (distinct : (members.map Member.key).Nodup) {missing : Nat → ε} {position : Nat}
    {values surplus : List ν}
    (read : readItems missing position draft members values = .ok (result, surplus))
    : (∀ value, values[place]? = some value → reads value (part result))
      ∧ (values[place]? = none → part result = part draft) := by
  induction members generalizing place position draft values with
  | nil => nomatch placed
  | cons member rest ih =>
      cases values with
      | nil => exact ⟨nofun, fun _ => congrArg part (readItems_nil read)⟩
      | cons value values =>
          obtain ⟨next, first, read⟩ := bind_eq_ok.mp read
          obtain ⟨apart, distinct⟩ := List.nodup_cons.mp distinct
          rw [List.forall_mem_cons] at own frame
          cases place with
          | zero =>
              have named : member.key = key := Option.some.inj placed
              have others : ∀ other ∈ rest, other.key ≠ key := fun other present same =>
                apart (List.mem_map.mpr ⟨other, present, same.trans named.symm⟩)
              have kept : ∀ other ∈ rest, ∀ value before after,
                  other.read value before = .ok after
                    → part before = part next → part after = part next :=
                fun other present value before after step same =>
                  (frame.2 other present (others other present) value before after step).trans same
              have unchanged := readItems_preserves kept rfl read
              refine ⟨fun given found => ?_, nofun⟩
              obtain rfl : value = given := Option.some.inj found
              exact unchanged ▸ own.1 named _ _ _ first
          | succ place =>
              have other : member.key ≠ key := fun same =>
                apart (same ▸ List.mem_of_getElem? placed)
              have kept := frame.1 other _ _ _ first
              obtain ⟨given, missing⟩ := ih own.2 frame.2 placed distinct read
              exact ⟨given, fun absent => (missing absent).trans kept⟩

end Member

namespace Serialized

variable {δ φ : Type} {members : List (Member Reading DecodeError δ)} {draft result : δ}

/-- What every member keeps is kept by the whole record. -/
theorem record_preserves {holds : δ → Prop}
    (each : ∀ member ∈ members, ∀ value before after,
      member.read value before = .ok after → holds before → holds after)
    (start : holds draft) {reading : Reading} (read : record members draft reading = .ok result)
    : holds result := by
  cases reading with
  | object entries => exact Member.readEntries_preserves each start read
  | array items =>
      obtain ⟨⟨value, surplus⟩, items, rest⟩ := bind_eq_ok.mp read
      cases surplus with
      | nil => exact pure_eq_ok.mp rest ▸ Member.readItems_preserves each start items
      | cons _ _ => nomatch rest
  | malformed | null | bool _ | number _ | string _ | deep _ => nomatch read

/-- A reading gives a value for a member: under its key in an object, or in its place in an array.
-/
inductive Gives (key : String) (place : Nat) (value : Reading) : Reading → Prop
  | entry {entries : List (Option String × Reading)} (member : (some key, value) ∈ entries)
    : Gives key place value (.object entries)
  | item {items : List Reading} (found : items[place]? = some value)
    : Gives key place value (.array items)

/-- A part of a record is read from the value that is given for it, and without one it has its
default.
-/
theorem record_determines (key : String) (place : Nat) (part : δ → φ)
    (reads : Reading → φ → Prop) (determines : Member.Determines members key part reads)
    (placed : (members.map Member.key)[place]? = some key)
    (distinct : (members.map Member.key).Nodup) {reading : Reading}
    (read : record members draft reading = .ok result)
    : (∀ value, Gives key place value reading → reads value (part result))
      ∧ ((∀ value, ¬Gives key place value reading) → part result = part draft) := by
  cases reading with
  | object entries =>
      obtain ⟨given, missing⟩ := determines.readEntries_unseen rfl read
      constructor
      · intro value gives
        cases gives with
        | entry member => exact given value (List.mem_map.mpr ⟨_, member, rfl⟩)
      · intro absent
        refine missing fun value member => ?_
        obtain ⟨⟨_ | name, _⟩, member, same⟩ := List.mem_map.mp member
        · nomatch same
        · cases same
          exact absent value (.entry member)
  | array items =>
      obtain ⟨⟨value, surplus⟩, items, rest⟩ := bind_eq_ok.mp read
      cases surplus with
      | nil =>
          obtain rfl := pure_eq_ok.mp rest
          obtain ⟨given, missing⟩ :=
            Member.readItems_determines determines.own determines.frame placed distinct items
          refine ⟨fun value (.item found) => given value found, fun absent => missing ?_⟩
          exact Option.eq_none_iff_forall_ne_some.mpr fun value found => absent value (.item found)
      | cons _ _ => nomatch rest
  | malformed | null | bool _ | number _ | string _ | deep _ => nomatch read

end Serialized

end Catalog
