import Catalog.Proofs.Declaration.Acceptance
import Catalog.Proofs.Manifest.EntryConditions

/-! Which manifests have a scope.
A manifest has a scope exactly if the names of its types are distinct and each entry satisfies the
conditions of its parts. Otherwise the error tells a condition that an entry breaks, namely the first
one that cannot stand after the entries before it; what is wrong with later ones does not count.
-/

namespace Catalog

open Outcome

namespace Manifest

-----------------------------------------------------------------------------------------
-- Types
-----------------------------------------------------------------------------------------

namespace TypeEntry

/-- The name of a type's collection: the one that is given, or else that of the type. -/
def collectionName (entry : TypeEntry) : String :=
  (entry.collection?.bind CollectionEntry.name?).getD entry.name

/-- The type has a name, its fields can stand together, its parts are sound, the names that are given
are accepted, and the members that its indexes use are declared.
-/
structure Sound (entry : TypeEntry) : Prop where
  named : entry.name ≠ ""
  fields : FieldMap.Valid entry.fields
  collection : ∀ given ∈ entry.collection?, given.Sound
  indexes : ∀ index ∈ entry.indexes, index.Sound
  collectionName : Accepted entry.collectionName
  indexNames : ∀ index ∈ entry.indexes, ∀ name ∈ index.name?, name ≠ "" → Accepted name
  declared
    : ∀ index ∈ entry.indexes,
        ∀ member ∈ index.members, ∃ field ∈ entry.fields, field.member = member

/-- The error tells a condition of its parts that the entry breaks. -/
inductive Breaks (entry : TypeEntry) : Error → Prop
  | fields {fault : FieldFault} (apart : ¬FieldMap.Valid entry.fields)
    : Breaks entry (.invalidField fault)
  | collection {given : CollectionEntry} {error : Error} (present : given ∈ entry.collection?)
    (breaks : given.Breaks error)
    : Breaks entry error
  | index {position : Nat} {given : IndexEntry} {error : Error}
    (found : entry.indexes[position]? = some given) (breaks : given.Breaks error)
    : Breaks entry (.within (.index position) error)

/-- The error tells why an entry cannot stand after the entries before it: it breaks a condition of
its parts, or one of the type that it declares, or its name is taken.
-/
inductive RefusedAfter (before : List TypeEntry) (entry : TypeEntry) : Error → Prop
  | breaks {error : Error} (breaks : entry.Breaks error)
    : RefusedAfter before entry (.within (.declaration entry.name) error)
  | repeated (taken : entry.name ∈ before.map TypeEntry.name)
    : RefusedAfter before entry (.duplicateType entry.name)
  | unnamed (unnamed : entry.name = "") : RefusedAfter before entry .emptyTypeName
  | collectionName {fault : NameFault} (refused : ¬Accepted entry.collectionName)
    : RefusedAfter before entry (.invalidName .collection entry.collectionName fault)
  | indexName {index : IndexEntry} {name : String} {fault : NameFault}
    (listed : index ∈ entry.indexes) (given : name ∈ index.name?) (nonempty : name ≠ "")
    (refused : ¬Accepted name)
    : RefusedAfter before entry (.invalidName .index name fault)
  | undeclared {index : IndexEntry} {member : String} (listed : index ∈ entry.indexes)
    (used : member ∈ index.members) (undeclared : ¬∃ field ∈ entry.fields, field.member = member)
    : RefusedAfter before entry (.unresolvableField entry.name member)

variable {before : List TypeEntry} {entry : TypeEntry} {type : TypeDeclaration} {error : Error}

theorem Breaks.not_sound (breaks : entry.Breaks error) : ¬entry.Sound := by
  intro sound
  cases breaks with
  | fields apart => exact apart sound.fields
  | collection present breaks => exact breaks.not_sound (sound.collection _ present)
  | index found breaks => exact breaks.not_sound (sound.indexes _ (List.mem_of_getElem? found))

/-- The type of an entry has the names that are given for it and its collection, its fields, and an
index for each of its indexes.
-/
structure Declares (entry : TypeEntry) (type : TypeDeclaration) : Prop where
  typeName : type.typeName = entry.name
  fields : type.fields.toList = entry.fields
  collection : type.collection.name = entry.collectionName
  indexes : entry.indexes.mapM IndexEntry.toDeclaration = .ok type.indexes

/-- An entry declares the type that it has, by the parts of its declaration. -/
theorem declares_of_toDeclaration (declared : entry.toDeclaration = .ok type)
    : entry.Declares type := by
  obtain ⟨fields, together, collection?, collection, indexes, made, same⟩ :=
    typeEntry_eq_ok.mp declared
  subst same
  refine ⟨rfl, FieldMap.ofList_eq_ok.mp together, ?_, indexDeclarations_eq_ok.mp made⟩
  rw [TypeDeclaration.collection, collectionName]
  cases given : entry.collection? with
  | none =>
      rw [given] at collection
      cases collection
      rfl
  | some entry =>
      rw [given] at collection
      obtain ⟨made, found, same⟩ := option_mapM_some_eq_ok.mp collection
      subst same
      obtain ⟨_, _, _, _, _, same⟩ := collectionEntry_eq_ok.mp found
      subst same
      rfl

/-- The members of an index are declared by the type exactly if the fields of the entry are declared
under those that its entry uses.
-/
theorem Declares.declares_iff (declares : entry.Declares type) {given : IndexEntry}
    {index : IndexDeclaration} (made : given.toDeclaration = .ok index)
    : type.Declares index
      ↔ ∀ member ∈ given.members, ∃ field ∈ entry.fields, field.member = member := by
  rw [TypeDeclaration.Declares, declares.fields, IndexEntry.members_of_toDeclaration made]

/-- The index has the name that is given for it, unless it is empty. -/
theorem mem_explicitName? {given : IndexEntry} {index : IndexDeclaration} {name : String}
    (made : given.toDeclaration = .ok index)
    : name ∈ index.explicitName? ↔ name ∈ given.name? ∧ name ≠ "" := by
  obtain ⟨_, _, _, _, _, _, _, _, _, _, same⟩ := indexEntry_eq_ok.mp made
  subst same
  simp [IndexDeclaration.explicitName?, Option.filter_eq_some_iff]

theorem sound_of_valid (declared : entry.toDeclaration = .ok type)
    (valid : type.validate = .ok ())
    : entry.Sound := by
  have declares := declares_of_toDeclaration declared
  obtain ⟨fields, together, collection?, collection, indexes, _, _⟩ := typeEntry_eq_ok.mp declared
  obtain ⟨named, accepted, indexesValid⟩ := TypeDeclaration.validate_eq_ok.mp valid
  refine ⟨declares.typeName ▸ named, FieldMap.exists_ofList_eq_ok.mp ⟨fields, together⟩, ?_, ?_,
    declares.collection ▸ accepted, ?_, ?_⟩
  · intro given present
    rw [Option.mem_def.mp present] at collection
    obtain ⟨_, found, _⟩ := option_mapM_some_eq_ok.mp collection
    exact CollectionEntry.sound_of_toDeclaration found
  · intro given listed
    obtain ⟨index, _, made⟩ := exists_mem_of_mapM declares.indexes given listed
    exact IndexEntry.sound_of_toDeclaration made
  · intro given listed name present nonempty
    obtain ⟨index, member, made⟩ := exists_mem_of_mapM declares.indexes given listed
    exact (indexesValid index member).1 name ((mem_explicitName? made).mpr ⟨present, nonempty⟩)
  · intro given listed
    obtain ⟨index, member, made⟩ := exists_mem_of_mapM declares.indexes given listed
    exact (declares.declares_iff made).mp (indexesValid index member).2

/-- The indexes of an entry are refused for the first one that is, by induction on them. -/
theorem indexDeclarations_eq_error {position : Nat} {entries : List IndexEntry}
    (failed : indexDeclarations position entries = .error error)
    : ∃ offset given cause,
        entries[offset]? = some given
        ∧ given.toDeclaration = .error cause
        ∧ error = .within (.index (position + offset)) cause := by
  induction entries generalizing position with
  | nil => cases failed
  | cons first rest ih =>
      rw [indexDeclarations] at failed
      cases made : first.toDeclaration with
      | error cause =>
          rw [made] at failed
          cases failed
          exact ⟨0, first, cause, rfl, made, rfl⟩
      | ok index =>
          cases others : indexDeclarations (position + 1) rest with
          | error later =>
              rw [made, others] at failed
              cases failed
              obtain ⟨offset, given, cause, found, refused, same⟩ := ih others
              refine ⟨offset + 1, given, cause, by simpa using found, refused, ?_⟩
              rw [same, Nat.add_right_comm, Nat.add_assoc]
          | ok indexes =>
              rw [made, others] at failed
              cases failed

/-- An entry is refused for a condition of its parts that it breaks, by the steps of its declaration.
-/
theorem toDeclaration_breaks (entry : TypeEntry)
    : FailsOnly entry.Breaks entry.toDeclaration := by
  have fields : FailsOnly entry.Breaks (FieldMap.ofList entry.fields) := by
    intro error failed
    have apart : ¬FieldMap.Valid entry.fields := by
      intro valid
      obtain ⟨map, together⟩ := FieldMap.exists_ofList_eq_ok.mpr valid
      nomatch failed.symm.trans together
    have reason := FieldMap.ofList_fails error failed
    cases error with
    | invalidField fault => exact .fields apart
    | _ => exact reason.elim
  have collection
      : FailsOnly entry.Breaks
          (entry.collection?.mapM (CollectionEntry.toDeclaration entry.name)) := by
    apply FailsOnly.option_mapM
    intro given present
    exact (given.toDeclaration_breaks entry.name).mono fun _ => .collection present
  have indexes : FailsOnly entry.Breaks (indexDeclarations 0 entry.indexes) := by
    intro error failed
    obtain ⟨position, given, cause, found, refused, same⟩ := indexDeclarations_eq_error failed
    rw [Nat.zero_add] at same
    exact same ▸ .index found (given.toDeclaration_breaks cause refused)
  exact fields.bind fun _ => collection.bind fun _ => indexes.bind fun _ => .ok _

/-- A member that an index uses is missing only if no field of the entry is declared under it. -/
theorem Declares.requireField_refused (declares : entry.Declares type) {given : IndexEntry}
    {member : String} (listed : given ∈ entry.indexes) (used : member ∈ given.members)
    : FailsOnly (entry.RefusedAfter before) (discard (type.requireField member)) := by
  intro error failed
  have missing := discard_eq_error.mp failed
  rw [TypeDeclaration.requireField] at missing
  split at missing
  case h_1 => cases missing
  case h_2 absent =>
    cases missing
    rw [declares.typeName]
    refine .undeclared listed used ?_
    intro present
    obtain ⟨field, declared, same⟩ := present
    have found := FieldMap.get?_eq_some.mpr ⟨declares.fields ▸ declared, same⟩
    cases absent.symm.trans found

/-- An index does not pass only for the name that is given for it, or for a member. -/
theorem Declares.checkIndex_refused (declares : entry.Declares type) {index : IndexDeclaration}
    (member : index ∈ type.indexes)
    : FailsOnly (entry.RefusedAfter before) (type.checkIndex index) := by
  obtain ⟨given, listed, made⟩ := exists_of_mem_mapM declares.indexes index member
  rw [TypeDeclaration.checkIndex_eq]
  refine FailsOnly.bind ?_ fun _ => FailsOnly.forM ?_
  · cases named : index.explicitName? with
    | none => exact .ok ()
    | some name =>
        obtain ⟨present, nonempty⟩ := (mem_explicitName? made).mp named
        exact checkName_fails_for fun refused _ => .indexName listed present nonempty refused
  · intro member used
    rw [IndexEntry.members_of_toDeclaration made] at used
    exact declares.requireField_refused listed used

/-- The type of an entry is not valid only for a condition that the entry breaks, by the checks of the
validation.
-/
theorem Declares.validate_refused (declares : entry.Declares type)
    : FailsOnly (entry.RefusedAfter before) type.validate := by
  rw [TypeDeclaration.validate]
  by_cases unnamed : type.typeName = ""
  · rw [if_pos unnamed]
    exact .error (.unnamed (declares.typeName ▸ unnamed))
  · rw [if_neg unnamed]
    refine FailsOnly.bind ?_ fun _ =>
      FailsOnly.forM fun _ member => declares.checkIndex_refused member
    rw [CollectionDeclaration.check, declares.collection]
    exact checkName_fails_for fun refused _ => .collectionName refused

end TypeEntry

-----------------------------------------------------------------------------------------
-- Manifests
-----------------------------------------------------------------------------------------

/-- The names of types are distinct, and all entries are sound. -/
structure Sound (types : List TypeEntry) : Prop where
  distinct : (types.map TypeEntry.name).Nodup
  each : ∀ entry ∈ types, entry.Sound

variable {manifest : Manifest} {before : List TypeEntry} {entry : TypeEntry} {scope : Scope}
  {error : Error}

theorem Sound.sublist {some_types types : List TypeEntry} (sound : Sound types)
    (sublist : some_types.Sublist types)
    : Sound some_types where
  distinct := sound.distinct.sublist (sublist.map TypeEntry.name)
  each entry listed := sound.each entry (sublist.subset listed)

/-- An entry that is refused after others does not make a sound manifest with them. -/
theorem TypeEntry.RefusedAfter.not_sound (refused : entry.RefusedAfter before error)
    : ¬Manifest.Sound (before ++ [entry]) := by
  intro ⟨distinct, each⟩
  have sound : entry.Sound := each entry (List.mem_append_right _ List.mem_cons_self)
  cases refused with
  | breaks breaks => exact breaks.not_sound sound
  | repeated taken =>
      rw [List.map_append, List.nodup_append] at distinct
      exact distinct.2.2 _ taken _ List.mem_cons_self rfl
  | unnamed unnamed => exact sound.named unnamed
  | collectionName refused => exact refused sound.collectionName
  | indexName listed given nonempty refused =>
      exact refused (sound.indexNames _ listed _ given nonempty)
  | undeclared listed used undeclared => exact undeclared (sound.declared _ listed _ used)

theorem typeNames_of_mapM {entries : List TypeEntry} {types : List TypeDeclaration}
    (declared : entries.mapM TypeEntry.toDeclaration = .ok types)
    : types.map TypeDeclaration.typeName = entries.map TypeEntry.name := by
  rw [mapM_eq_ok] at declared
  induction declared with
  | nil => rfl
  | cons first _ ih =>
      rw [List.map_cons, List.map_cons, ih, (TypeEntry.declares_of_toDeclaration first).typeName]

theorem sound_of_toScope (built : manifest.toScope = .ok scope) : Sound manifest.types := by
  obtain ⟨declared, wellFormed⟩ := toScope_eq_ok.mp built
  refine ⟨typeNames_of_mapM declared ▸ wellFormed.distinct, ?_⟩
  intro entry listed
  obtain ⟨type, member, made⟩ := exists_mem_of_mapM declared entry listed
  exact TypeEntry.sound_of_valid made (wellFormed.valid type member)

/-- An entry is not registered only for a reason that it gives after the entries of the scope. -/
theorem register_refused (names : scope.types.map TypeDeclaration.typeName
      = before.map TypeEntry.name)
    : FailsOnly (entry.RefusedAfter before) (register scope entry) := by
  rw [register, Scope.register_eq_bind]
  refine FailsOnly.bind_of_ok ?_ ?_
  · intro error failed
    cases made : entry.toDeclaration with
    | ok type =>
        rw [made] at failed
        cases failed
    | error cause =>
        rw [made] at failed
        cases failed
        exact .breaks (entry.toDeclaration_breaks cause made)
  · intro type declared
    have declares := TypeEntry.declares_of_toDeclaration (mapError_eq_ok.mp declared)
    rw [Scope.insert_eq_bind]
    cases found : scope.get? type.typeName with
    | some other =>
        have taken : entry.name ∈ before.map TypeEntry.name := by
          rw [← names, ← declares.typeName]
          have same : other.typeName = type.typeName := by
            simpa using List.find?_some found
          exact same ▸ List.mem_map_of_mem (Scope.mem_of_get? found)
        rw [declares.typeName]
        exact .error (.repeated taken)
    | none => exact declares.validate_refused.bind fun _ => .ok _

/-- A manifest has no scope because of the first entry that is refused after those before it. -/
theorem refused_of_toScope (failed : manifest.toScope = .error error)
    : ∃ before entry after,
        manifest.types = before ++ entry :: after
        ∧ Sound before
        ∧ entry.RefusedAfter before error
        ∧ ∀ others,
            toScope { manifest with types := before ++ entry :: others } = .error error := by
  obtain ⟨before, entry, after, scope, split, passed, stopped⟩ := foldlM_eq_error.mp failed
  have built : toScope { manifest with types := before } = .ok scope := passed
  have names := typeNames_of_mapM (toScope_eq_ok.mp built).1
  refine ⟨before, entry, after, split, sound_of_toScope built, ?_, ?_⟩
  · exact register_refused names error stopped
  · intro others
    exact foldlM_eq_error.mpr ⟨before, entry, others, scope, rfl, passed, stopped⟩

/-- A manifest has a scope exactly if it is sound. The scope consists of one type for each entry, in
their order. Otherwise there is a first entry with which the manifest is not sound any more; the
error tells why that entry is refused after those before it, whatever follows it.
-/
theorem toScope_accepts_sound (manifest : Manifest)
    : ((∃ scope, manifest.toScope = .ok scope) ↔ Sound manifest.types)
      ∧ (∀ scope,
          manifest.toScope = .ok scope
          → List.Forall₂
              (fun entry type => type.typeName = entry.name ∧ entry.toDeclaration = .ok type)
              manifest.types scope.types)
      ∧ ∀ error,
          manifest.toScope = .error error
          → ∃ before entry after,
              manifest.types = before ++ entry :: after
              ∧ Sound before
              ∧ ¬Sound (before ++ [entry])
              ∧ entry.RefusedAfter before error
              ∧ ∀ others,
                  toScope { manifest with types := before ++ entry :: others } = .error error := by
  refine ⟨?_, ?_, ?_⟩
  · constructor
    · intro ⟨scope, built⟩
      exact sound_of_toScope built
    · intro sound
      cases built : manifest.toScope with
      | ok scope => exact ⟨scope, rfl⟩
      | error error =>
          obtain ⟨before, entry, after, split, _, refused, _⟩ := refused_of_toScope built
          have sublist : (before ++ [entry]).Sublist manifest.types := by
            rw [split, List.append_cons before entry after]
            exact List.sublist_append_left _ _
          exact absurd (sound.sublist sublist) refused.not_sound
  · intro scope built
    have declared := mapM_eq_ok.mp (toScope_eq_ok.mp built).1
    refine declared.imp ?_
    intro entry type made
    exact ⟨(TypeEntry.declares_of_toDeclaration made).typeName, made⟩
  · intro error failed
    obtain ⟨before, entry, after, split, sound, refused, later⟩ := refused_of_toScope failed
    exact ⟨before, entry, after, split, sound, refused.not_sound, refused, later⟩

/-- The first type is reported for its index, although the name of the second one is reserved. -/
example
    : toScope {
        types := [
          { name := "Person", indexes := [{ values := ["@ts", "@reverse", "@default"] }] },
          { name := "events" }] }
      = .error (.within (.declaration "Person") (.within (.index 0) (.danglingOrder 2))) := by
  rfl

end Manifest

end Catalog
