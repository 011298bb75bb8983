import Catalog.Proofs.Compilation.Blocks
import Catalog.Proofs.Operation.RoundTrip

/-! What a declaration says is recovered from the wire form of the operation it compiles to.
The wire form determines the operation. The operation determines what was declared: stored names
are distinct, so a data field comes from one member only.
-/

namespace Catalog

open Outcome

/-- The wire form of an operation determines it, as both readings invert what they read. -/
theorem Operation.eq_of_toWire_eq {left right : Operation}
    (same : left.toExpr.toWire = right.toExpr.toWire)
    : left = right := by
  have exprs := congrArg Expr.ofWire same
  rw [Expr.ofWire_toWire _ left.toExpr_canonical, Expr.ofWire_toWire _ right.toExpr_canonical]
    at exprs
  have operations := congrArg Operation.ofExpr (Except.ok.inj exprs)
  rw [left.ofExpr_toExpr, right.ofExpr_toExpr] at operations
  exact Except.ok.inj operations

-----------------------------------------------------------------------------------------
-- Elements
-----------------------------------------------------------------------------------------

/-- Elements that point at the same are the same. Two fields with one stored name are one field. -/
theorem denotes_leftUnique (fields : FieldMap) : Relator.LeftUnique (Denotes fields) := by
  intro left right compiled leftDenoted rightDenoted
  cases leftDenoted with
  | @field field declared _ =>
      generalize same : IndexedField.data field.storedName = compiled at rightDenoted
      cases rightDenoted with
      | @field other present _ =>
          have storedNames : field.storedName = other.storedName := IndexedField.data.inj same
          have fieldsEqual : field = other :=
            List.inj_on_of_nodup_map fields.valid.storedNames_nodup declared present storedNames
          rw [fieldsEqual]
      | selfReference | timestamp => nomatch same
  | selfReference =>
      cases rightDenoted
      rfl
  | timestamp =>
      cases rightDenoted
      rfl

theorem denotesValue_leftUnique (fields : FieldMap)
    : Relator.LeftUnique (DenotesValue fields) := by
  intro left right compiled leftDenoted rightDenoted
  have elements : left.element = right.element :=
    denotes_leftUnique fields leftDenoted.field rightDenoted.field
  have reversed : left.order = .reverse ↔ right.order = .reverse :=
    leftDenoted.reverse.symm.trans rightDenoted.reverse
  obtain ⟨element, order⟩ := left
  obtain ⟨otherElement, otherOrder⟩ := right
  subst elements
  cases order <;> cases otherOrder <;> simp_all

-----------------------------------------------------------------------------------------
-- Declarations
-----------------------------------------------------------------------------------------

/-- Indexes that are compiled to the same are declared alike but for the names that are given. -/
theorem CompiledIndex.declared_alike {fields : FieldMap} {collection : String}
    {left right : IndexDeclaration} {creation : IndexCreation}
    (leftCompiled : CompiledIndex fields collection left creation)
    (rightCompiled : CompiledIndex fields collection right creation)
    : { left with name? := right.name? } = right := by
  have terms : left.terms = right.terms :=
    (denotes_leftUnique fields).forall₂ leftCompiled.terms rightCompiled.terms
  have values : left.values = right.values :=
    (denotesValue_leftUnique fields).forall₂ leftCompiled.values rightCompiled.values
  have unique := leftCompiled.unique.symm.trans rightCompiled.unique
  have serialized := leftCompiled.serialized.symm.trans rightCompiled.serialized
  have data := leftCompiled.data?.symm.trans rightCompiled.data?
  have permissions := leftCompiled.permissions?.symm.trans rightCompiled.permissions?
  rw [terms, values, unique, serialized, data, permissions]

theorem CompiledCollection.collection_eq {left right : TypeDeclaration}
    {creation : CollectionCreation} (leftCompiled : CompiledCollection left creation)
    (rightCompiled : CompiledCollection right creation)
    : left.collection = right.collection := by
  have recovered {type : TypeDeclaration} (compiled : CompiledCollection type creation)
      : type.collection
        = {
          name := creation.name
          ttlDays? := creation.ttlDays?
          historyDays? := creation.historyDays?
          data? := creation.data?
          permissions? := creation.permissions?
        } := by
    rw [compiled.named, compiled.ttlDays?, compiled.historyDays?, compiled.data?,
      compiled.permissions?]
  rw [recovered leftCompiled, recovered rightCompiled]

/-- Compilation loses nothing. Two indexes of a type whose operations have the same wire form have
the same terms, values with their orders, flags, data and permissions, and so are equal but for
the names that are given to them. Two collections, whatever their types, are then equal.
-/
theorem TypeDeclaration.declared_eq_of_toWire_eq
    : (∀ (type : TypeDeclaration) (left right : IndexDeclaration)
          (leftCreation rightCreation : IndexCreation),
        type.compileIndex left = .ok leftCreation
        → type.compileIndex right = .ok rightCreation
        → leftCreation.toExpr.toWire = rightCreation.toExpr.toWire
        → { left with name? := right.name? } = right)
      ∧ ∀ (left right : TypeDeclaration) (leftCreation rightCreation : CollectionCreation),
          left.compileCollection = .ok leftCreation
          → right.compileCollection = .ok rightCreation
          → leftCreation.toExpr.toWire = rightCreation.toExpr.toWire
          → left.collection = right.collection := by
  constructor
  · intro type left right leftCreation rightCreation leftCompiled rightCompiled same
    have operations : Operation.createIndex leftCreation = .createIndex rightCreation :=
      Operation.eq_of_toWire_eq same
    obtain rfl := Operation.createIndex.inj operations
    exact (compileIndex_eq_ok.mp leftCompiled).declared_alike
      (compileIndex_eq_ok.mp rightCompiled)
  · intro left right leftCreation rightCreation leftCompiled rightCompiled same
    have operations : Operation.createCollection leftCreation = .createCollection rightCreation :=
      Operation.eq_of_toWire_eq same
    obtain rfl := Operation.createCollection.inj operations
    exact (compileCollection_eq_ok.mp leftCompiled).collection_eq
      (compileCollection_eq_ok.mp rightCompiled)

/-- An index that is given the very name that is derived for another one has the other's wire
form, and so its terms and values; a type without a declared collection has that of a type that
declares the default one.
-/
theorem TypeDeclaration.declared_eq_of_toWire_eq_people
    : let people : TypeDeclaration := {
        typeName := "people"
        fields := ⟨[⟨"name", some "age"⟩, ⟨"age", some "name"⟩], by
          constructor <;> simp [Field.storedName]⟩ }
      let crowd : TypeDeclaration :=
        { typeName := "crowd", collection? := some { name := "people" } }
      let terms := [Element.field "age", .selfReference]
      let values := [{ element := .field "name", order := .reverse }]
      let derived : IndexDeclaration := { terms, values, unique := true }
      let named : IndexDeclaration :=
        { name? := some "age_reverse_by_name_people", terms, values, unique := true }
      (∃ creation,
        people.compileIndex derived = .ok creation
        ∧ people.compileIndex named = .ok creation
        ∧ { derived with name? := named.name? } = named)
      ∧ ∃ creation,
          people.compileCollection = .ok creation
          ∧ crowd.compileCollection = .ok creation
          ∧ people.collection = crowd.collection := by
  intro people crowd terms values derived named
  let index : IndexCreation := {
    name := "age_reverse_by_name_people"
    source := "people"
    terms := [.data "name", .reference]
    values := [⟨.data "age", true⟩]
    unique := true
    serialized := true
    data? := none
    permissions? := none }
  let collection : CollectionCreation := { name := "people", historyDays? := some 30 }
  have derivedCompiled : people.compileIndex derived = .ok index := by decide
  have namedCompiled : people.compileIndex named = .ok index := by decide
  have peopleCompiled : people.compileCollection = .ok collection := by decide
  have crowdCompiled : crowd.compileCollection = .ok collection := by decide
  constructor
  · refine ⟨index, derivedCompiled, namedCompiled, ?_⟩
    exact declared_eq_of_toWire_eq.1 _ _ _ index index derivedCompiled namedCompiled rfl
  · refine ⟨collection, peopleCompiled, crowdCompiled, ?_⟩
    exact declared_eq_of_toWire_eq.2 _ _ collection collection peopleCompiled crowdCompiled rfl

end Catalog
