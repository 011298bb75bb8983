import Catalog.Proofs.Annotated.Attributes
import Catalog.Proofs.Declaration.FlatGrammar
import Catalog.Proofs.Manifest.EntryDeclaration

/-! What the collections and indexes of a manifest have to satisfy.
The conditions are stated about the texts that are written. An entry that is declared satisfies
them, and one that is not is refused with an error that says which of them it breaks.
-/

namespace Catalog.Manifest

open Outcome
open Annotated (HoldsObject parse_eq_ok)

-----------------------------------------------------------------------------------------
-- Texts of elements
-----------------------------------------------------------------------------------------

/-- The markers that set the order of the element before them. -/
def orderMarkers : List String :=
  ["@reverse", "@default"]

/-- The texts that mean something else than a member. -/
def markers : List String :=
  "@ref" :: "@ts" :: orderMarkers

/-- The texts that are written for members, in order. -/
def membersOf (texts : List String) : List String :=
  texts.filter (·.toList.head? ≠ some '@')

/-- A marker of an order stands at the position, and no element right before it. -/
def OrderDanglesAt (texts : List String) (position : Nat) : Prop :=
  (∃ text ∈ orderMarkers, texts[position]? = some text)
  ∧ ¬∃ before text, position = before + 1 ∧ texts[before]? = some text ∧ text ∉ orderMarkers

/-- A text is the marker of an order or of an element, or it is written for a member, or it is no
marker although it starts like one; by cases of its meaning.
-/
theorem flatItem_cases (text : String)
    : (text ∈ orderMarkers ∧ ∃ order, flatItem text = .ok (.order order))
      ∨ (text ∉ orderMarkers ∧ text ∈ markers ∧ text.toList.head? = some '@'
          ∧ ∃ element, flatItem text = .ok (.element element) ∧ element.member? = none)
      ∨ (text ∉ orderMarkers ∧ text.toList.head? ≠ some '@'
          ∧ flatItem text = .ok (.element (.field text)))
      ∨ (text ∉ markers ∧ text.toList.head? = some '@'
          ∧ flatItem text = .error (.unknownMarker text)) := by
  by_cases marked : text ∈ markers
  · simp only [markers, orderMarkers, List.mem_cons, List.not_mem_nil, or_false] at marked
    rcases marked with same | same | same | same
    · subst text
      exact Or.inr (Or.inl ⟨by decide, by decide, rfl, _, rfl, rfl⟩)
    · subst text
      exact Or.inr (Or.inl ⟨by decide, by decide, rfl, _, rfl, rfl⟩)
    · subst text
      exact Or.inl ⟨by decide, _, rfl⟩
    · subst text
      exact Or.inl ⟨by decide, _, rfl⟩
  · have plain : text ∉ orderMarkers := fun order =>
      marked (List.mem_cons_of_mem _ (List.mem_cons_of_mem _ order))
    by_cases head : text.toList.head? = some '@'
    · refine Or.inr (Or.inr (Or.inr ⟨marked, head, ?_⟩))
      simp only [markers, orderMarkers, List.mem_cons, List.not_mem_nil, or_false, not_or] at marked
      obtain ⟨not_ref, not_ts, not_reverse, not_default⟩ := marked
      unfold flatItem
      split
      case h_5 => exact if_pos head
      all_goals contradiction
    · exact Or.inr (Or.inr (Or.inl ⟨plain, head, flatItem_of_head? head⟩))

section Meaning

variable {text : String} {item : FlatItem} (meant : flatItem text = .ok item)

include meant

theorem mem_markers_of_flatItem (head : text.toList.head? = some '@') : text ∈ markers := by
  rcases flatItem_cases text with ⟨order, _⟩ | ⟨_, known, _⟩ | ⟨_, plain, _⟩ | ⟨_, _, unknown⟩
  · exact List.mem_cons_of_mem _ (List.mem_cons_of_mem _ order)
  · exact known
  · exact absurd head plain
  · simp [unknown] at meant

/-- The texts that mean an order are the markers of orders. -/
theorem mem_orderMarkers_iff : text ∈ orderMarkers ↔ ∃ order, item = .order order := by
  rcases flatItem_cases text with ⟨marked, order, found⟩ | ⟨plain, _, _, element, found, _⟩
    | ⟨plain, _, found⟩ | ⟨_, _, unknown⟩
  · have same : item = .order order := by simpa [meant] using found
    simp [marked, same]
  · have same : item = .element element := by simpa [meant] using found
    simp [plain, same]
  · have same : item = .element (.field text) := by simpa [meant] using found
    simp [plain, same]
  · simp [unknown] at meant

theorem notMem_orderMarkers_iff : text ∉ orderMarkers ↔ ∃ element, item = .element element := by
  rw [mem_orderMarkers_iff meant]
  cases item <;> simp

/-- A text refers to the member for which it is written, if it is written for one. -/
theorem member?_of_flatItem
    : item.element?.bind Element.member?
      = if text.toList.head? ≠ some '@' then some text else none := by
  rcases flatItem_cases text with ⟨marked, order, found⟩ | ⟨_, _, head, element, found, nothing⟩
    | ⟨_, plain, found⟩ | ⟨_, _, unknown⟩
  · have same : item = .order order := by simpa [meant] using found
    have head : text.toList.head? = some '@' := by
      simp only [orderMarkers, List.mem_cons, List.not_mem_nil, or_false] at marked
      rcases marked with same | same <;> rw [same] <;> rfl
    simp [same, FlatItem.element?, head]
  · have same : item = .element element := by simpa [meant] using found
    simp [same, FlatItem.element?, nothing, head]
  · have same : item = .element (.field text) := by simpa [meant] using found
    simp [same, FlatItem.element?, Element.member?, plain]
  · simp [unknown] at meant

end Meaning

section Texts

variable {texts : List String} {items : List FlatItem} (meant : texts.mapM flatItem = .ok items)

include meant

/-- The items of texts refer to the members for which the texts are written, by induction on them.
-/
theorem members_of_mapM_flatItem
    : (items.filterMap FlatItem.element?).filterMap Element.member? = membersOf texts := by
  rw [mapM_eq_ok] at meant
  rw [List.filterMap_filterMap]
  induction meant with
  | nil => rfl
  | @cons text item texts items first _ ih =>
      have refers := member?_of_flatItem first
      by_cases head : text.toList.head? = some '@'
      · rw [if_neg (not_not.mpr head)] at refers
        simpa [membersOf, refers, head] using ih
      · rw [if_pos head] at refers
        simpa [membersOf, refers, head] using ih

/-- The order at a position dangles among the texts exactly if it does among what they mean. -/
theorem orderDanglesAt_iff {position : Nat}
    : OrderDanglesAt texts position ↔ FlatItem.DanglesAt items position := by
  have order (position : Nat)
      : (∃ text ∈ orderMarkers, texts[position]? = some text)
        ↔ ∃ order, items[position]? = some (.order order) := by
    rcases getElem?_cases_of_mapM meant position with ⟨noText, noItem⟩
      | ⟨text, item, shown, read, first⟩
    · simp [noText, noItem]
    · simp [shown, read, mem_orderMarkers_iff first]
  have element (position : Nat)
      : (∃ text, texts[position]? = some text ∧ text ∉ orderMarkers)
        ↔ ∃ element, items[position]? = some (.element element) := by
    rcases getElem?_cases_of_mapM meant position with ⟨noText, noItem⟩
      | ⟨text, item, shown, read, first⟩
    · simp [noText, noItem]
    · simp [shown, read, notMem_orderMarkers_iff first]
  simp only [OrderDanglesAt, FlatItem.DanglesAt, order, exists_and_left, element]

end Texts

-----------------------------------------------------------------------------------------
-- Data
-----------------------------------------------------------------------------------------

/-- Data stands as an object, or as the text of one. -/
def DataEntry.Readable : DataEntry → Prop
  | .object _ => True
  | .text written => HoldsObject written

section Data

variable {property : String}

theorem DataEntry.readable_of_toObject {given : DataEntry} {object : JsonObject}
    (made : given.toObject property = .ok object)
    : given.Readable := by
  cases given with
  | object _ => trivial
  | text written => exact ⟨object, parse_eq_ok.mp made⟩

/-- Data is refused only if it is not readable, under the property that it is given for. -/
theorem DataEntry.toObject_fails {kind : Error → Prop} (given : DataEntry)
    (refuses : ¬given.Readable → ∀ fault, kind (.invalidObject property fault))
    : FailsOnly kind (given.toObject property) := by
  intro error failed
  cases given with
  | object _ => nomatch failed
  | text written =>
      rw [toObject] at failed
      have unreadable : ¬HoldsObject written := by
        intro ⟨entries, parsed⟩
        have made : JsonObject.parse property written = .ok entries := parse_eq_ok.mpr parsed
        nomatch failed.symm.trans made
      rw [JsonObject.parse] at failed
      split at failed
      · nomatch failed
      · cases failed
        exact refuses unreadable _
      · cases failed
        exact refuses unreadable _

theorem readable_of_mapM_toObject {given? : Option DataEntry} {object? : Option JsonObject}
    (made : given?.mapM (DataEntry.toObject property) = .ok object?)
    : ∀ given ∈ given?, given.Readable := by
  intro given present
  cases present
  obtain ⟨object, found, _⟩ := option_mapM_some_eq_ok.mp made
  exact DataEntry.readable_of_toObject found

theorem mapM_toObject_fails {kind : Error → Prop} {given? : Option DataEntry}
    (refuses : ∀ given ∈ given?, ¬given.Readable → ∀ fault, kind (.invalidObject property fault))
    : FailsOnly kind (given?.mapM (DataEntry.toObject property)) :=
  FailsOnly.option_mapM fun given present => given.toObject_fails (refuses given present)

end Data

-----------------------------------------------------------------------------------------
-- Collections
-----------------------------------------------------------------------------------------

namespace CollectionEntry

/-- The entry does not give days of history and refuse them as well, and its data is readable. -/
structure Sound (entry : CollectionEntry) : Prop where
  history : ¬(entry.noHistory = true ∧ entry.historyDays?.isSome)
  data : ∀ given ∈ entry.data?, given.Readable
  permissions : ∀ given ∈ entry.permissions?, given.Readable

/-- The error tells a condition that the entry breaks. -/
inductive Breaks (entry : CollectionEntry) : Error → Prop
  | history (conflict : entry.noHistory = true ∧ entry.historyDays?.isSome)
    : Breaks entry .historyConflict
  | data {given : DataEntry} {fault : ObjectFault} (present : given ∈ entry.data?)
    (unreadable : ¬given.Readable)
    : Breaks entry (.invalidObject "data" fault)
  | permissions {given : DataEntry} {fault : ObjectFault} (present : given ∈ entry.permissions?)
    (unreadable : ¬given.Readable)
    : Breaks entry (.invalidObject "permissions" fault)

variable {entry : CollectionEntry} {typeName : String}

theorem Breaks.not_sound {error : Error} (breaks : entry.Breaks error) : ¬entry.Sound := by
  intro sound
  cases breaks with
  | history conflict => exact sound.history conflict
  | data present unreadable => exact unreadable (sound.data _ present)
  | permissions present unreadable => exact unreadable (sound.permissions _ present)

theorem sound_of_toDeclaration {collection : CollectionDeclaration}
    (declared : entry.toDeclaration typeName = .ok collection)
    : entry.Sound := by
  obtain ⟨agree, _, data, _, permissions, _⟩ := collectionEntry_eq_ok.mp declared
  exact ⟨agree, readable_of_mapM_toObject data, readable_of_mapM_toObject permissions⟩

/-- The entry of a collection is refused for a condition that it breaks, by the steps of its
declaration.
-/
theorem toDeclaration_breaks (entry : CollectionEntry) (typeName : String)
    : FailsOnly entry.Breaks (entry.toDeclaration typeName) := by
  by_cases conflict : entry.noHistory = true ∧ entry.historyDays?.isSome
  · rw [toDeclaration, if_pos conflict]
    exact .error (Breaks.history conflict)
  · rw [toDeclaration, if_neg conflict]
    have data : FailsOnly entry.Breaks (entry.data?.mapM (DataEntry.toObject "data")) :=
      mapM_toObject_fails fun _ present unreadable _ => .data present unreadable
    have permissions
        : FailsOnly entry.Breaks (entry.permissions?.mapM (DataEntry.toObject "permissions")) :=
      mapM_toObject_fails fun _ present unreadable _ => .permissions present unreadable
    exact data.bind fun _ => permissions.bind fun _ => .ok _

end CollectionEntry

-----------------------------------------------------------------------------------------
-- Indexes
-----------------------------------------------------------------------------------------

namespace IndexEntry

/-- The members that an index uses, in order. -/
def members (entry : IndexEntry) : List String :=
  membersOf (entry.terms ++ entry.values)

/-- No term is the marker of an order, all texts that start like markers are some, each order among
the values stands right after an element, and the data is readable.
-/
structure Sound (entry : IndexEntry) : Prop where
  terms : ∀ text ∈ entry.terms, text ∉ orderMarkers
  known : ∀ text ∈ entry.terms ++ entry.values, text.toList.head? = some '@' → text ∈ markers
  attached : ∀ position, ¬OrderDanglesAt entry.values position
  data : ∀ given ∈ entry.data?, given.Readable
  permissions : ∀ given ∈ entry.permissions?, given.Readable

/-- The error tells a condition that the entry breaks, and the text or the position at which it does.
-/
inductive Breaks (entry : IndexEntry) : Error → Prop
  | term {text : String} (listed : text ∈ entry.terms) (order : text ∈ orderMarkers)
    : Breaks entry (.orderOutsideValues text)
  | unknown {text : String} (listed : text ∈ entry.terms ++ entry.values)
    (head : text.toList.head? = some '@') (unknown : text ∉ markers)
    : Breaks entry (.unknownMarker text)
  | dangling {position : Nat} (dangles : OrderDanglesAt entry.values position)
    : Breaks entry (.danglingOrder position)
  | data {given : DataEntry} {fault : ObjectFault} (present : given ∈ entry.data?)
    (unreadable : ¬given.Readable)
    : Breaks entry (.invalidObject "data" fault)
  | permissions {given : DataEntry} {fault : ObjectFault} (present : given ∈ entry.permissions?)
    (unreadable : ¬given.Readable)
    : Breaks entry (.invalidObject "permissions" fault)

variable {entry : IndexEntry} {index : IndexDeclaration}

theorem Breaks.not_sound {error : Error} (breaks : entry.Breaks error) : ¬entry.Sound := by
  intro sound
  cases breaks with
  | term listed order => exact sound.terms _ listed order
  | unknown listed head unknown => exact unknown (sound.known _ listed head)
  | dangling dangles => exact sound.attached _ dangles
  | data present unreadable => exact unreadable (sound.data _ present)
  | permissions present unreadable => exact unreadable (sound.permissions _ present)

/-- Terms are declared exactly as the items that their texts mean. -/
theorem mapM_flatItem_of_terms {texts : List String} {terms : List Element}
    (meant : texts.mapM term = .ok terms)
    : texts.mapM flatItem = .ok (terms.map .element) := by
  rw [mapM_eq_ok] at meant ⊢
  rw [List.forall₂_map_right_iff]
  exact meant.imp fun _ _ => term_eq_ok.mp

theorem sound_of_toDeclaration (declared : entry.toDeclaration = .ok index) : entry.Sound := by
  obtain ⟨terms, termsMeant, items, meant, values, read, _, data, _, permissions, _⟩ :=
    indexEntry_eq_ok.mp declared
  have termItems := mapM_flatItem_of_terms termsMeant
  refine ⟨?_, ?_, ?_, readable_of_mapM_toObject data, readable_of_mapM_toObject permissions⟩
  · intro text listed
    obtain ⟨element, _, first⟩ := exists_mem_of_mapM termsMeant text listed
    exact (notMem_orderMarkers_iff (term_eq_ok.mp first)).mpr ⟨element, rfl⟩
  · intro text listed head
    rcases List.mem_append.mp listed with term | value
    · obtain ⟨item, _, first⟩ := exists_mem_of_mapM termItems text term
      exact mem_markers_of_flatItem first head
    · obtain ⟨item, _, first⟩ := exists_mem_of_mapM meant text value
      exact mem_markers_of_flatItem first head
  · intro position dangles
    have attached := (SortedElement.values_of_ofFlat read).1
    exact attached position ((orderDanglesAt_iff meant).mp dangles)

theorem members_of_toDeclaration (declared : entry.toDeclaration = .ok index)
    : index.members = entry.members := by
  obtain ⟨terms, termsMeant, items, meant, values, read, _, _, _, _, same⟩ :=
    indexEntry_eq_ok.mp declared
  subst same
  have termMembers := members_of_mapM_flatItem (mapM_flatItem_of_terms termsMeant)
  have valueMembers := members_of_mapM_flatItem meant
  have elements : (terms.map FlatItem.element).filterMap FlatItem.element? = terms := by
    simp [List.filterMap_map, Function.comp_def, FlatItem.element?]
  rw [elements] at termMembers
  rw [IndexDeclaration.members, IndexDeclaration.elements, SortedElement.elements_ofFlat read,
    List.filterMap_append, termMembers, valueMembers]
  simp only [members, membersOf, List.filter_append]

/-- The meaning of a text is looked for in vain only if it starts like a marker and is none. -/
theorem flatItem_breaks {text : String} (listed : text ∈ entry.terms ++ entry.values)
    : FailsOnly entry.Breaks (flatItem text) := by
  intro error failed
  rcases flatItem_cases text with ⟨_, _, found⟩ | ⟨_, _, _, _, found, _⟩ | ⟨_, _, found⟩
    | ⟨unknown, head, found⟩
  · simp [found] at failed
  · simp [found] at failed
  · simp [found] at failed
  · have same : .unknownMarker text = error := by simpa [found] using failed
    exact same ▸ .unknown listed head unknown

/-- The entry of an index is refused for a condition that it breaks, by the steps of its declaration.
-/
theorem toDeclaration_breaks (entry : IndexEntry)
    : FailsOnly entry.Breaks entry.toDeclaration := by
  have terms : FailsOnly entry.Breaks (entry.terms.mapM term) := by
    apply FailsOnly.mapM
    intro text listed
    apply (flatItem_breaks (List.mem_append_left _ listed)).bind_of_ok
    intro item meant
    cases item with
    | element _ => exact .ok _
    | order order => exact .error (.term listed ((mem_orderMarkers_iff meant).mpr ⟨order, rfl⟩))
  have items : FailsOnly entry.Breaks (entry.values.mapM flatItem) := by
    apply FailsOnly.mapM
    intro text listed
    exact flatItem_breaks (List.mem_append_right _ listed)
  have values {items : List FlatItem} (meant : entry.values.mapM flatItem = .ok items)
      : FailsOnly entry.Breaks (SortedElement.ofFlat items) := by
    intro error failed
    obtain ⟨position, same, dangles, _⟩ := SortedElement.danglesAt_of_ofFlat failed
    exact same ▸ .dangling ((orderDanglesAt_iff meant).mpr dangles)
  have data : FailsOnly entry.Breaks (entry.data?.mapM (DataEntry.toObject "data")) :=
    mapM_toObject_fails fun _ present unreadable _ => .data present unreadable
  have permissions
      : FailsOnly entry.Breaks (entry.permissions?.mapM (DataEntry.toObject "permissions")) :=
    mapM_toObject_fails fun _ present unreadable _ => .permissions present unreadable
  exact terms.bind fun _ => items.bind_of_ok fun _ meant => (values meant).bind fun _ =>
    data.bind fun _ => permissions.bind fun _ => .ok _

end IndexEntry

end Catalog.Manifest
