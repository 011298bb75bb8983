import Catalog.Proofs.Declaration.Acceptance

/-! Field maps that are built by one insertion after another, each of which may be refused.
A field is added exactly if it can stand together with those before it, and otherwise the map stays
as it is. So whether all fields of a list are accepted does not depend on their order, although the
fault that is found first does, and no lookup depends on it either.
-/

namespace Catalog

open Outcome

/-- The insertion of a field that was tried, and its outcome. -/
structure Insertion where
  field : Field
  outcome : Except Error Unit

/-- The field that an insertion added to the map. -/
def Insertion.added? (insertion : Insertion) : Option Field :=
  match insertion.outcome with
  | .ok () => some insertion.field
  | .error _ => none

namespace FieldMap

/-- Tries to insert a field. -/
def attempt (map : FieldMap) (field : Field) : Insertion × FieldMap :=
  let (outcome, next) := map.tryInsert field
  (⟨field, outcome⟩, next)

/-- Tries to insert one field after another. -/
def attemptAll (map : FieldMap) : List Field → List Insertion × FieldMap
  | [] => ([], map)
  | field :: rest =>
    let (first, next) := map.attempt field
    let (others, final) := next.attemptAll rest
    (first :: others, final)

variable {map other : FieldMap} {fields others : List Field}

-----------------------------------------------------------------------------------------
-- Lookups do not depend on the order
-----------------------------------------------------------------------------------------

theorem Valid.perm (valid : Valid fields) (same : others.Perm fields) : Valid others where
  member_ne field member := valid.member_ne field (same.mem_iff.mp member)
  alias_ne field member := valid.alias_ne field (same.mem_iff.mp member)
  members_nodup := (same.map Field.member).nodup_iff.mpr valid.members_nodup
  storedNames_nodup := (same.map Field.storedName).nodup_iff.mpr valid.storedNames_nodup

/-- Two maps of the same fields find the same field under every member. -/
theorem get?_perm (same : other.toList.Perm map.toList) (member : String)
    : other.get? member = map.get? member := by
  apply Option.ext
  intro field
  simp only [get?_eq_some, same.mem_iff]

theorem alias?_perm (same : other.toList.Perm map.toList) (member : String)
    : other.alias? member = map.alias? member := by
  simp only [alias?, get?_perm same]

theorem resolve_perm (same : other.toList.Perm map.toList) (member : String)
    : other.resolve member = map.resolve member := by
  simp only [resolve, alias?_perm same]

/-- Two declared members are not resolved to one name, since stored names are distinct. -/
theorem resolve_inj {first second : Field} (firstDeclared : first ∈ map.toList)
    (secondDeclared : second ∈ map.toList)
    (same : map.resolve first.member = map.resolve second.member)
    : first = second := by
  have stored : first.storedName = second.storedName := by
    simpa only [resolve_of_mem firstDeclared, resolve_of_mem secondDeclared] using same
  exact List.inj_on_of_nodup_map map.valid.storedNames_nodup firstDeclared secondDeclared stored

/-- A map stands for a list of fields: it can be built from the list again, and from the fields in
any other order as a map in which every lookup finds the same.
-/
structure StandsFor (map : FieldMap) (fields : List Field) : Prop where
  valid : Valid fields
  listed : map.toList = fields
  rebuilt : ofList map.toList = .ok map
  reordered
    : ∀ others : List Field,
        others.Perm fields
        → ∃ other,
            ofList others = .ok other
            ∧ other.toList = others
            ∧ ∀ name,
                other.get? name = map.get? name
                ∧ other.alias? name = map.alias? name
                ∧ other.resolve name = map.resolve name
  resolve_inj
    : ∀ first ∈ fields,
        ∀ second ∈ fields,
          map.resolve first.member = map.resolve second.member → first = second

/-- Every map stands for its own fields. Witness for another order: the map of the fields in that
order, which can stand together as well.
-/
theorem standsFor_toList (map : FieldMap) : map.StandsFor map.toList where
  valid := map.valid
  listed := rfl
  rebuilt := ofList_eq_ok.mpr rfl
  reordered others same := by
    have valid := map.valid.perm same
    refine ⟨⟨others, valid⟩, ofList_eq_ok.mpr rfl, rfl, ?_⟩
    intro name
    exact ⟨get?_perm same name, alias?_perm same name, resolve_perm same name⟩
  resolve_inj _ firstDeclared _ secondDeclared same :=
    FieldMap.resolve_inj firstDeclared secondDeclared same

-----------------------------------------------------------------------------------------
-- Insertions one after another
-----------------------------------------------------------------------------------------

/-- An insertion adds a field that can stand with the others at the end, or it is refused and leaves
the map as it is.
-/
theorem attempt_cases (map : FieldMap) (field : Field)
    : (∃ valid : Valid (map.toList ++ [field]),
        map.attempt field = (⟨field, .ok ()⟩, ⟨map.toList ++ [field], valid⟩))
      ∨ ¬Valid (map.toList ++ [field])
        ∧ ∃ error, map.attempt field = (⟨field, .error error⟩, map) := by
  rw [attempt]
  rcases map.tryInsert_cases field with ⟨valid, tried⟩ | ⟨invalid, error, _, tried⟩
  · exact .inl ⟨valid, by rw [tried]⟩
  · exact .inr ⟨invalid, error, by rw [tried]⟩

/-- A refused insertion leaves the map as it is. -/
theorem attempt_refused {field : Field} {error : Error}
    (refused : (map.attempt field).1.outcome = .error error)
    : (map.attempt field).2 = map := by
  rcases map.attempt_cases field with ⟨valid, tried⟩ | ⟨_, _, tried⟩
  · simp [tried] at refused
  · rw [tried]

theorem field_attempt (map : FieldMap) (field : Field) : (map.attempt field).1.field = field := by
  rcases map.attempt_cases field with ⟨valid, tried⟩ | ⟨_, _, tried⟩ <;> rw [tried]

theorem outcome_attempt (map : FieldMap) (field : Field)
    : (map.attempt field).1.outcome = .ok () ↔ Valid (map.toList ++ [field]) := by
  rcases map.attempt_cases field with ⟨valid, tried⟩ | ⟨invalid, _, tried⟩
  · simpa [tried] using valid
  · simpa [tried] using invalid

theorem toList_attempt (map : FieldMap) (field : Field)
    : (map.attempt field).2.toList = map.toList ++ (map.attempt field).1.added?.toList := by
  rcases map.attempt_cases field with ⟨valid, tried⟩ | ⟨_, _, tried⟩ <;>
    simp [tried, Insertion.added?]

theorem field_attemptAll (map : FieldMap) (fields : List Field)
    : (map.attemptAll fields).1.map Insertion.field = fields := by
  induction fields generalizing map with
  | nil => rfl
  | cons field rest ih => simp only [attemptAll, List.map_cons, field_attempt, ih]

/-- Insertions add the accepted fields at the end, in their order; by induction on the fields. -/
theorem toList_attemptAll (map : FieldMap) (fields : List Field)
    : (map.attemptAll fields).2.toList
      = map.toList ++ (map.attemptAll fields).1.filterMap Insertion.added? := by
  induction fields generalizing map with
  | nil => simp [attemptAll]
  | cons field rest ih =>
      have first := map.toList_attempt field
      cases added : (map.attempt field).1.added? <;> simp [attemptAll, ih, first, added]

/-- An insertion is accepted exactly if its field can stand with those accepted before it; by
induction on the fields, along which the insertions before it are taken off.
-/
theorem outcome_attemptAll {insertion : Insertion} {before after : List Insertion}
    (tried : (map.attemptAll fields).1 = before ++ insertion :: after)
    : insertion.outcome = .ok ()
      ↔ Valid (map.toList ++ before.filterMap Insertion.added? ++ [insertion.field]) := by
  induction fields generalizing map before with
  | nil => simp [attemptAll] at tried
  | cons field rest ih =>
      cases before with
      | nil =>
          have same : (map.attempt field).1 = insertion := (List.cons.inj tried).1
          subst insertion
          simpa [field_attempt] using map.outcome_attempt field
      | cons earlier others =>
          have same : (map.attempt field).1 = earlier := (List.cons.inj tried).1
          have later : ((map.attempt field).2.attemptAll rest).1 = others ++ insertion :: after :=
            (List.cons.inj tried).2
          have outcome := ih later
          subst earlier
          have first := map.toList_attempt field
          cases added : (map.attempt field).1.added? <;> simpa [first, added] using outcome

/-- A map consists of the fields that the given insertions added. -/
structure BuiltBy (map : FieldMap) (insertions : List Insertion) : Prop where
  standsFor : map.StandsFor (insertions.filterMap Insertion.added?)
  /-- A field was accepted exactly if it can stand with those accepted before it. -/
  accepted
    : ∀ before insertion after,
        insertions = before ++ insertion :: after
        → (insertion.outcome = .ok ()
            ↔ Valid (before.filterMap Insertion.added? ++ [insertion.field]))
  /-- A further insertion that is refused leaves the map as it is. -/
  unchanged
    : ∀ field error,
        (map.attempt field).1.outcome = .error error → (map.attempt field).2 = map

/-- A list of fields has a map exactly if they can stand together, and the map then stands for the
list. Insertions of any number and with any outcomes build a map that stands for the accepted
fields. Witness: the map after the insertions, with the log of their outcomes.
-/
theorem ofList_accepts_valid (fields : List Field)
    : ((∃ map, ofList fields = .ok map) ↔ Valid fields)
      ∧ (∀ map, ofList fields = .ok map → map.StandsFor fields)
      ∧ ∃ insertions map,
          empty.attemptAll fields = (insertions, map)
          ∧ insertions.map Insertion.field = fields
          ∧ map.BuiltBy insertions := by
  refine ⟨exists_ofList_eq_ok, ?_, ?_⟩
  · intro map built
    have listed := ofList_eq_ok.mp built
    exact listed ▸ map.standsFor_toList
  · refine ⟨_, _, rfl, field_attemptAll empty fields, ?_⟩
    have listed := toList_attemptAll empty fields
    exact {
      standsFor := by
        have stands := standsFor_toList (empty.attemptAll fields).2
        rwa [listed] at stands
      accepted := fun _ _ _ tried => outcome_attemptAll tried
      unchanged := fun _ _ => attempt_refused
    }

/-- An alias may be the member of another field, but not its stored name. -/
example
    : (empty.attemptAll [⟨"name", some "title"⟩, ⟨"title", none⟩, ⟨"title", some "name"⟩]).2.toList
      = [⟨"name", some "title"⟩, ⟨"title", some "name"⟩] := by
  decide

end FieldMap

end Catalog
