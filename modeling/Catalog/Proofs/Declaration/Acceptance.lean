import Catalog.Proofs.Declaration.AcceptedName
import Catalog.Proofs.Declaration.Lookup
import Catalog.Proofs.Outcome

/-! Which declarations are accepted, and why the others are not.
Fields are accepted exactly if they can stand together, and kept as they are. A type is valid
exactly if it has a name, the database accepts the names that are given, and the members that its
indexes refer to are declared.
-/

namespace Catalog

open Outcome

/-- The error of a name that is refused. -/
def Error.OfName : Error → Prop
  | .invalidName _ _ _ => True
  | _ => False

/-- The error of fields that cannot stand together. -/
def Error.OfFields : Error → Prop
  | .invalidField _ => True
  | _ => False

-----------------------------------------------------------------------------------------
-- Fields
-----------------------------------------------------------------------------------------

/-- Some of the fields that can stand together can do so as well. -/
theorem FieldMap.Valid.sublist {some_fields fields : List Field} (valid : Valid fields)
    (sublist : some_fields.Sublist fields)
    : Valid some_fields where
  member_ne field member := valid.member_ne field (sublist.subset member)
  alias_ne field member := valid.alias_ne field (sublist.subset member)
  members_nodup := valid.members_nodup.sublist (sublist.map Field.member)
  storedNames_nodup := valid.storedNames_nodup.sublist (sublist.map Field.storedName)

namespace FieldMap

variable {map next : FieldMap} {field : Field} {fields : List Field}

/-- A map consists of its fields. -/
theorem eq_of_toList (same : map.toList = next.toList) : map = next := by
  cases map
  cases next
  cases same
  rfl

/-- A field that can stand with the others is added at the end; any other field is refused, and the
map stays as it is.
-/
theorem tryInsert_cases (map : FieldMap) (field : Field)
    : (∃ valid : Valid (map.toList ++ [field]),
        map.tryInsert field = (.ok (), ⟨map.toList ++ [field], valid⟩))
      ∨ ¬Valid (map.toList ++ [field])
        ∧ ∃ error : Error, error.OfFields ∧ map.tryInsert field = (.error error, map) := by
  have declared : field ∈ map.toList ++ [field] := List.mem_append_right _ List.mem_cons_self
  have apart {key : Field → String} (distinct : ((map.toList ++ [field]).map key).Nodup)
      {other : Field} (present : other ∈ map.toList)
      : key other ≠ key field := by
    rw [List.map_append, List.nodup_append] at distinct
    exact distinct.2.2 _ (List.mem_map_of_mem present) _ List.mem_cons_self
  have refused (invalid : ¬Valid (map.toList ++ [field])) (fault : FieldFault)
      : ¬Valid (map.toList ++ [field])
        ∧ ∃ error : Error, error.OfFields
          ∧ ((.error (.invalidField fault), map) : Except Error Unit × FieldMap)
            = (.error error, map) :=
    ⟨invalid, .invalidField fault, trivial, rfl⟩
  unfold tryInsert
  split
  case isTrue unnamed =>
    exact .inr (refused (fun valid => valid.member_ne field declared unnamed) _)
  case isFalse named =>
    split
    case isTrue unaliased =>
      exact .inr (refused (fun valid => valid.alias_ne field declared unaliased) _)
    case isFalse aliased =>
      split
      case h_1 other found =>
        obtain ⟨present, same⟩ := get?_eq_some.mp found
        exact .inr (refused (fun valid => apart valid.members_nodup present same) _)
      case h_2 fresh =>
        split
        case h_1 other found =>
          have present := List.mem_of_find?_eq_some found
          have same : other.storedName = field.storedName := by
            simpa using List.find?_some found
          exact .inr (refused (fun valid => apart valid.storedNames_nodup present same) _)
        case h_2 unshared =>
          exact .inl ⟨map.valid.append named aliased (by simpa [get?] using fresh)
            (by simpa using unshared), rfl⟩

/-- A field is added exactly if there is a map in which it stands after the others. -/
theorem insert_eq_ok : map.insert field = .ok next ↔ next.toList = map.toList ++ [field] := by
  rw [insert, stateAfter_eq_ok]
  rcases map.tryInsert_cases field with ⟨valid, tried⟩ | ⟨invalid, error, _, tried⟩
  · rw [tried, Prod.mk.injEq, and_iff_right rfl]
    exact ⟨fun same => same ▸ rfl, fun last => eq_of_toList last.symm⟩
  · rw [tried]
    refine iff_of_false (by simp) fun last => invalid ?_
    exact last ▸ next.valid

/-- Fields are added exactly if there is a map in which they stand after the others, by
induction on the fields.
-/
theorem insertAll_eq_ok
    : map.insertAll fields = .ok next ↔ next.toList = map.toList ++ fields := by
  unfold insertAll
  induction fields generalizing map with
  | nil =>
      rw [List.foldlM_nil, pure_eq_ok, List.append_nil]
      exact ⟨fun same => congrArg _ same.symm, fun same => eq_of_toList same.symm⟩
  | cons field rest ih =>
      simp only [List.foldlM_cons, bind_eq_ok, ih, insert_eq_ok]
      constructor
      · rintro ⟨middle, first, last⟩
        rw [last, first, List.append_assoc, List.singleton_append]
      · intro last
        -- The fields up to this one can stand together, as all of them can.
        have sublist : (map.toList ++ [field]).Sublist next.toList := by
          rw [last, List.append_cons map.toList field rest]
          exact List.sublist_append_left _ _
        exact ⟨⟨_, next.valid.sublist sublist⟩, rfl, by simpa using last⟩

/-- There is a map of fields exactly if they can stand together, and it consists of them. -/
theorem ofList_eq_ok : ofList fields = .ok map ↔ map.toList = fields :=
  insertAll_eq_ok

theorem exists_ofList_eq_ok : (∃ map, ofList fields = .ok map) ↔ Valid fields := by
  simp only [ofList_eq_ok]
  constructor
  · rintro ⟨map, rfl⟩
    exact map.valid
  · exact fun valid => ⟨⟨fields, valid⟩, rfl⟩

/-- Fields that cannot stand together are refused as such. -/
theorem ofList_fails : FailsOnly Error.OfFields (ofList fields) := by
  refine FailsOnly.foldlM fun map field error failed => ?_
  rw [insert, stateAfter_eq_error] at failed
  rcases map.tryInsert_cases field with ⟨valid, tried⟩ | ⟨_, other, ofFields, tried⟩
  · simp [tried] at failed
  · rw [tried] at failed
    cases failed
    exact ofFields

end FieldMap

-----------------------------------------------------------------------------------------
-- Types
-----------------------------------------------------------------------------------------

/-- A name is refused only if it is not accepted, and as what it is given to. -/
theorem checkName_fails_for {kind : NameKind} {name : String} {reason : Error → Prop}
    (refuses : ¬Accepted name → ∀ fault, reason (.invalidName kind name fault))
    : FailsOnly reason (checkName kind name) := by
  intro error failed
  have refused : ¬Accepted name := by
    intro accepted
    cases failed.symm.trans (checkName_eq_ok.mpr accepted)
  rw [checkName] at failed
  split at failed
  · cases failed
    exact refuses refused _
  · split at failed
    · cases failed
      exact refuses refused _
    · cases failed

/-- A refused name is reported with its fault. -/
theorem checkName_refuses (kind : NameKind) (name : String)
    : FailsOnly Error.OfName (checkName kind name) :=
  checkName_fails_for fun _ _ => trivial

namespace TypeDeclaration

variable {type : TypeDeclaration} {index : IndexDeclaration}

/-- The members that an index refers to are declared by the type. -/
def Declares (type : TypeDeclaration) (index : IndexDeclaration) : Prop :=
  ∀ member ∈ index.members, ∃ field ∈ type.fields.toList, field.member = member

/-- Checking an index is checking its name, if it is given one, and then its members. -/
theorem checkIndex_eq (type : TypeDeclaration) (index : IndexDeclaration)
    : type.checkIndex index
      = (do
        index.explicitName?.elim (.ok ()) (checkName .index)
        index.members.forM fun member => discard (type.requireField member)) := by
  rw [checkIndex]
  cases index.explicitName? <;> rfl

/-- A given name passes exactly if it is accepted. -/
theorem checkGivenName_eq_ok {name? : Option String}
    : name?.elim (.ok ()) (checkName .index) = .ok () ↔ ∀ name ∈ name?, Accepted name := by
  cases name? with
  | none => simp
  | some name => simp [checkName_eq_ok]

/-- The members pass exactly if they are declared. -/
theorem checkMembers_eq_ok
    : (index.members.forM fun member => discard (type.requireField member)) = .ok ()
      ↔ type.Declares index := by
  simp only [forM_eq_ok, discard_eq_ok, requireField_eq_ok, FieldMap.get?_eq_some, Declares]

/-- An index passes exactly if its name is accepted, if it is given one, and the members that it
refers to are declared.
-/
theorem checkIndex_eq_ok
    : type.checkIndex index = .ok ()
      ↔ (∀ name ∈ index.explicitName?, Accepted name) ∧ type.Declares index := by
  rw [checkIndex_eq, check_bind_eq_ok, checkGivenName_eq_ok, checkMembers_eq_ok]

/-- An index that refers to declared members is refused only for its name. -/
theorem checkIndex_refuses (declared : type.Declares index)
    : FailsOnly Error.OfName (type.checkIndex index) := by
  rw [checkIndex_eq, checkMembers_eq_ok.mpr declared]
  refine FailsOnly.bind ?_ fun _ => .ok ()
  cases index.explicitName? with
  | none => exact .ok ()
  | some name => exact checkName_refuses .index name

/-- A type is valid exactly if it has a name, its collection's name is accepted, and its indexes
pass.
-/
theorem validate_eq_ok
    : type.validate = .ok ()
      ↔ type.typeName ≠ ""
        ∧ Accepted type.collection.name
        ∧ ∀ index ∈ type.indexes,
            (∀ name ∈ index.explicitName?, Accepted name) ∧ type.Declares index := by
  rw [validate]
  split
  case isTrue unnamed => simp [unnamed]
  case isFalse named =>
    simp only [check_bind_eq_ok, CollectionDeclaration.check, checkName_eq_ok,
      forM_eq_ok, checkIndex_eq_ok]
    exact ⟨fun accepted => ⟨named, accepted⟩, fun accepted => accepted.2⟩

/-- A type that has a name and declares what its indexes refer to is refused only for a name
that is given.
-/
theorem validate_refuses (named : type.typeName ≠ "")
    (declared : ∀ index ∈ type.indexes, type.Declares index)
    : FailsOnly Error.OfName type.validate := by
  rw [validate, if_neg named]
  exact (checkName_refuses .collection _).bind fun _ =>
    FailsOnly.forM fun index member => checkIndex_refuses (declared index member)

end TypeDeclaration

end Catalog
