import Catalog.Proofs.Operation.Parameters

/-! The expressions that are schema operations.
An operation is read from an expression exactly if every parameter is of its form. Parameters and
entries of other names play no part, and an expression that is not an operation is refused as such.
-/

namespace Catalog

open Outcome

-----------------------------------------------------------------------------------------
-- The grammar
-----------------------------------------------------------------------------------------

/-- A value is given under a key, and it is of the form. -/
def Entries.Requires (parameters : Entries Expr) (key : String) (form : Expr → Prop) : Prop :=
  ∃ expr, parameters.find? key = some expr ∧ form expr

/-- A value under a key is of the form, if there is one. -/
def Entries.Allows (parameters : Entries Expr) (key : String) (form : Expr → Prop) : Prop :=
  ∀ expr ∈ parameters.find? key, form expr

namespace Expr

/-- A string literal. -/
def IsString (expr : Expr) : Prop :=
  ∃ value, expr = .string value

/-- A Boolean literal. -/
def IsFlag (expr : Expr) : Prop :=
  ∃ flag, expr = .bool flag

/-- A signed integer from `0` to `4294967295`. -/
def IsDays (expr : Expr) : Prop :=
  ∃ value, expr = .int value ∧ 0 ≤ value.toInt ∧ value.toInt ≤ 4294967295

/-- An object without calls at any depth. -/
def IsData (expr : Expr) : Prop :=
  (∃ entries, expr = .object entries) ∧ expr.CallFree

/-- A reference to a collection. -/
def IsReference (expr : Expr) : Prop :=
  ∃ name, expr = .call "collection" (.string name)

/-- A word for the reference or the time of the last write, or a path into the data. -/
def IsPointer (expr : Expr) : Prop :=
  expr = .string "ref" ∨ expr = .string "ts" ∨ ∃ name, expr = .array [.string "data", .string name]

/-- An array of items of a form. -/
def IsListOf (form : Expr → Prop) (expr : Expr) : Prop :=
  ∃ items, expr = .array items ∧ ∀ item ∈ items, form item

/-- An object that says what a term points at. -/
def IsTerm (expr : Expr) : Prop :=
  ∃ entry : Entries Expr, expr = .object entry ∧ entry.Requires "field" IsPointer

/-- An object that says what a value points at, and that may say whether it is reversed. -/
def IsValue (expr : Expr) : Prop :=
  ∃ entry : Entries Expr,
    expr = .object entry ∧ entry.Requires "field" IsPointer ∧ entry.Allows "reverse" IsFlag

end Expr

/-- The parameters that an operation on a collection takes. -/
structure CollectionCreation.Takes (parameters : Entries Expr) : Prop where
  name : parameters.Requires "name" Expr.IsString
  historyDays : parameters.Allows "history_days" Expr.IsDays
  ttlDays : parameters.Allows "ttl_days" Expr.IsDays
  data : parameters.Allows "data" Expr.IsData
  permissions : parameters.Allows "permissions" Expr.IsData

/-- The parameters that an operation on an index takes. -/
structure IndexCreation.Takes (parameters : Entries Expr) : Prop where
  name : parameters.Requires "name" Expr.IsString
  source : parameters.Requires "source" Expr.IsReference
  terms : parameters.Allows "terms" (Expr.IsListOf Expr.IsTerm)
  values : parameters.Allows "values" (Expr.IsListOf Expr.IsValue)
  unique : parameters.Allows "unique" Expr.IsFlag
  serialized : parameters.Allows "serialized" Expr.IsFlag
  data : parameters.Allows "data" Expr.IsData
  permissions : parameters.Allows "permissions" Expr.IsData

/-- A call that creates a collection or an index. -/
inductive Expr.IsOperation : Expr → Prop
  | createCollection {parameters : Entries Expr} (takes : CollectionCreation.Takes parameters)
    : IsOperation (.call "create_collection" (.object parameters))
  | createIndex {parameters : Entries Expr} (takes : IndexCreation.Takes parameters)
    : IsOperation (.call "create_index" (.object parameters))

variable {parameters : Entries Expr} {key : String}

section

variable {α : Type} {gives : Expr → α → Prop} {form : Expr → Prop}

/-- An optional value is there exactly if what is given for it is of the form. -/
theorem exists_rel_iff (each : ∀ expr, (∃ value, gives expr value) ↔ form expr)
    : (∃ value?, Option.Rel gives (parameters.find? key) value?) ↔ parameters.Allows key form := by
  unfold Entries.Allows
  cases parameters.find? key with
  | none => exact ⟨fun _ => nofun, fun _ => ⟨none, .none⟩⟩
  | some expr =>
      simp only [Option.mem_some_iff, forall_eq', ← each]
      exact ⟨fun | ⟨some value, .some given⟩ => ⟨value, given⟩,
        fun ⟨value, given⟩ => ⟨some value, .some given⟩⟩

/-- A value or its default is there exactly if what is given for it is of the form. -/
theorem exists_givesOr_iff (each : ∀ expr, (∃ value, gives expr value) ↔ form expr) (default : α)
    : (∃ value, GivesOr default gives (parameters.find? key) value)
      ↔ parameters.Allows key form := by
  unfold Entries.Allows
  cases parameters.find? key with
  | none => exact ⟨fun _ => nofun, fun _ => ⟨default, .missing⟩⟩
  | some expr =>
      simp only [Option.mem_some_iff, forall_eq', ← each]
      exact ⟨fun | ⟨value, .given given⟩ => ⟨value, given⟩,
        fun ⟨value, given⟩ => ⟨value, .given given⟩⟩

/-- A list is given by an array whose items each give something. -/
theorem exists_givesList_iff (each : ∀ expr, (∃ value, gives expr value) ↔ form expr) (expr : Expr)
    : (∃ values, expr.GivesList gives values) ↔ expr.IsListOf form := by
  simp only [Expr.IsListOf, ← each, ← exists_forall₂_iff]
  constructor
  · rintro ⟨values, ⟨related⟩⟩
    exact ⟨_, rfl, values, related⟩
  · rintro ⟨items, rfl, values, related⟩
    exact ⟨values, .array related⟩

end

theorem Expr.exists_givesFlag_iff (expr : Expr) : (∃ flag, expr.GivesFlag flag) ↔ expr.IsFlag := by
  constructor
  · rintro ⟨flag, given⟩
    cases given
    exact ⟨flag, rfl⟩
  · rintro ⟨flag, rfl⟩
    exact ⟨flag, .bool flag⟩

/-- Days are given by the integers that a word of 32 bits holds. -/
theorem Expr.exists_givesDays_iff (expr : Expr) : (∃ days, expr.GivesDays days) ↔ expr.IsDays := by
  constructor
  · rintro ⟨days, @⟨value, _, same⟩⟩
    have small := days.toNat_lt
    exact ⟨value, rfl, by omega, by omega⟩
  · rintro ⟨value, rfl, low, high⟩
    refine ⟨UInt32.ofNat value.toInt.toNat, .int ?_⟩
    have small : value.toInt.toNat < UInt32.size := by rw [UInt32.size]; omega
    rw [UInt32.toNat_ofNat_of_lt' small, Int.toNat_of_nonneg low]

theorem Expr.exists_givesObject_iff (expr : Expr)
    : (∃ object, expr.GivesObject object) ↔ expr.IsData := by
  simp only [GivesObject, ← toObject_eq_ok]
  exact exists_toObject_iff

theorem Expr.exists_pointsAt_iff (expr : Expr)
    : (∃ field, expr.PointsAt field) ↔ expr.IsPointer := by
  constructor
  · rintro ⟨field, _ | _ | name⟩
    · exact .inl rfl
    · exact .inr (.inl rfl)
    · exact .inr (.inr ⟨name, rfl⟩)
  · rintro (rfl | rfl | ⟨name, rfl⟩)
    · exact ⟨_, .reference⟩
    · exact ⟨_, .timestamp⟩
    · exact ⟨_, .data name⟩

theorem Expr.exists_givesTerm_iff (expr : Expr) : (∃ term, expr.GivesTerm term) ↔ expr.IsTerm := by
  simp only [IsTerm, Entries.Requires, ← exists_pointsAt_iff]
  constructor
  · rintro ⟨term, ⟨found, points⟩⟩
    exact ⟨_, rfl, _, found, _, points⟩
  · rintro ⟨entry, rfl, pointer, found, term, points⟩
    exact ⟨term, .object found points⟩

theorem Expr.exists_givesValue_iff (expr : Expr)
    : (∃ value, expr.GivesValue value) ↔ expr.IsValue := by
  simp only [IsValue, Entries.Requires, ← exists_pointsAt_iff,
    ← exists_givesOr_iff exists_givesFlag_iff false]
  constructor
  · rintro ⟨value, ⟨found, points, reverse⟩⟩
    exact ⟨_, rfl, ⟨_, found, _, points⟩, _, reverse⟩
  · rintro ⟨entry, rfl, ⟨pointer, found, field, points⟩, reverse, given⟩
    exact ⟨⟨field, reverse⟩, .object found points given⟩

/-- Parameters hold an operation on a collection exactly if each of them is of its form. -/
theorem CollectionCreation.exists_heldBy_iff
    : (∃ creation : CollectionCreation, creation.HeldBy parameters) ↔ Takes parameters := by
  have days {key : String} : _ ↔ parameters.Allows key Expr.IsDays :=
    exists_rel_iff Expr.exists_givesDays_iff
  have object {key : String} : _ ↔ parameters.Allows key Expr.IsData :=
    exists_rel_iff Expr.exists_givesObject_iff
  constructor
  · rintro ⟨creation, held⟩
    exact ⟨⟨_, held.name, _, rfl⟩, days.mp ⟨_, held.historyDays⟩, days.mp ⟨_, held.ttlDays⟩,
      object.mp ⟨_, held.data⟩, object.mp ⟨_, held.permissions⟩⟩
  · intro takes
    obtain ⟨_, named, name, rfl⟩ := takes.name
    obtain ⟨historyDays?, history⟩ := days.mpr takes.historyDays
    obtain ⟨ttlDays?, ttl⟩ := days.mpr takes.ttlDays
    obtain ⟨data?, data⟩ := object.mpr takes.data
    obtain ⟨permissions?, permissions⟩ := object.mpr takes.permissions
    exact ⟨{ name, historyDays?, ttlDays?, data?, permissions? },
      ⟨named, history, ttl, data, permissions⟩⟩

/-- Parameters hold an operation on an index exactly if each of them is of its form. -/
theorem IndexCreation.exists_heldBy_iff
    : (∃ creation : IndexCreation, creation.HeldBy parameters) ↔ Takes parameters := by
  have object {key : String} : _ ↔ parameters.Allows key Expr.IsData :=
    exists_rel_iff Expr.exists_givesObject_iff
  have flag {key : String} (default : Bool) : _ ↔ parameters.Allows key Expr.IsFlag :=
    exists_givesOr_iff Expr.exists_givesFlag_iff default
  have terms {key : String} : _ ↔ parameters.Allows key (Expr.IsListOf Expr.IsTerm) :=
    exists_givesOr_iff (exists_givesList_iff Expr.exists_givesTerm_iff) []
  have values {key : String} : _ ↔ parameters.Allows key (Expr.IsListOf Expr.IsValue) :=
    exists_givesOr_iff (exists_givesList_iff Expr.exists_givesValue_iff) []
  constructor
  · rintro ⟨creation, held⟩
    exact ⟨⟨_, held.name, _, rfl⟩, ⟨_, held.source, _, rfl⟩, terms.mp ⟨_, held.terms⟩,
      values.mp ⟨_, held.values⟩, (flag _).mp ⟨_, held.unique⟩, (flag _).mp ⟨_, held.serialized⟩,
      object.mp ⟨_, held.data⟩, object.mp ⟨_, held.permissions⟩⟩
  · intro takes
    obtain ⟨_, named, name, rfl⟩ := takes.name
    obtain ⟨_, referred, source, rfl⟩ := takes.source
    obtain ⟨termList, listed⟩ := terms.mpr takes.terms
    obtain ⟨valueList, sorted⟩ := values.mpr takes.values
    obtain ⟨unique, isUnique⟩ := (flag false).mpr takes.unique
    obtain ⟨serialized, isSerialized⟩ := (flag true).mpr takes.serialized
    obtain ⟨data?, data⟩ := object.mpr takes.data
    obtain ⟨permissions?, permissions⟩ := object.mpr takes.permissions
    exact ⟨⟨name, source, termList, valueList, unique, serialized, data?, permissions?⟩,
      ⟨named, referred, listed, sorted, isUnique, isSerialized, data, permissions⟩⟩

/-- An expression stands for an operation exactly if it is of the form of one. -/
theorem Operation.exists_writtenAs_iff {expr : Expr}
    : (∃ operation : Operation, operation.WrittenAs expr) ↔ expr.IsOperation := by
  constructor
  · rintro ⟨⟨creation⟩ | ⟨creation⟩, parameters, rfl, held⟩
    · exact .createCollection (CollectionCreation.exists_heldBy_iff.mp ⟨creation, held⟩)
    · exact .createIndex (IndexCreation.exists_heldBy_iff.mp ⟨creation, held⟩)
  · rintro (takes | takes)
    · obtain ⟨creation, held⟩ := CollectionCreation.exists_heldBy_iff.mpr takes
      exact ⟨.createCollection creation, _, rfl, held⟩
    · obtain ⟨creation, held⟩ := IndexCreation.exists_heldBy_iff.mpr takes
      exact ⟨.createIndex creation, _, rfl, held⟩

-----------------------------------------------------------------------------------------
-- Other keys
-----------------------------------------------------------------------------------------

/-- Two objects hold the same under each of the keys, and anything under others. -/
def Entries.AgreeOn (keys : List String) (left right : Entries Expr) : Prop :=
  ∀ key ∈ keys, left.find? key = right.find? key

/-- Two expressions that are the same but for other keys of their entries, if they are objects. -/
inductive Expr.SameEntry (keys : List String) : Expr → Expr → Prop
  | object {left right : Entries Expr} (agree : left.AgreeOn keys right)
    : SameEntry keys (.object left) (.object right)
  | refl (expr : Expr) : SameEntry keys expr expr

/-- Two optional arrays whose items are the same but for other keys. -/
inductive Expr.SameEntries (keys : List String) : Option Expr → Option Expr → Prop
  | array {left right : List Expr} (each : List.Forall₂ (SameEntry keys) left right)
    : SameEntries keys (some (.array left)) (some (.array right))
  | refl (expr? : Option Expr) : SameEntries keys expr? expr?

/-- The keys of an operation on a collection. -/
def CollectionCreation.keys : List String :=
  ["name", "history_days", "ttl_days", "data", "permissions"]

/-- The keys of an operation on an index, but for its lists. -/
def IndexCreation.keys : List String :=
  ["name", "source", "unique", "serialized", "data", "permissions"]

/-- Two calls that create collections or indexes and are the same but for other keys of their
parameters and of the entries in their lists.
-/
inductive Expr.SameOperation : Expr → Expr → Prop
  | createCollection {left right : Entries Expr}
    (agree : left.AgreeOn CollectionCreation.keys right)
    : SameOperation (.call "create_collection" (.object left))
        (.call "create_collection" (.object right))
  | createIndex {left right : Entries Expr} (agree : left.AgreeOn IndexCreation.keys right)
    (terms : SameEntries ["field"] (left.find? "terms") (right.find? "terms"))
    (values : SameEntries ["field", "reverse"] (left.find? "values") (right.find? "values"))
    : SameOperation (.call "create_index" (.object left)) (.call "create_index" (.object right))

theorem Entries.AgreeOn.symm {keys : List String} {left right : Entries Expr}
    (agree : left.AgreeOn keys right)
    : right.AgreeOn keys left :=
  fun key member => (agree key member).symm

theorem Expr.SameEntry.symm {keys : List String} {left right : Expr}
    (same : SameEntry keys left right)
    : SameEntry keys right left := by
  cases same with
  | object agree => exact .object agree.symm
  | refl => exact .refl _

theorem Expr.SameEntries.symm {keys : List String} {left right : Option Expr}
    (same : SameEntries keys left right)
    : SameEntries keys right left := by
  cases same with
  | array each => exact .array (each.flip.imp fun _ _ => SameEntry.symm)
  | refl => exact .refl _

theorem Expr.SameOperation.symm {left right : Expr} (same : left.SameOperation right)
    : right.SameOperation left := by
  cases same with
  | createCollection agree => exact .createCollection agree.symm
  | createIndex agree terms values => exact .createIndex agree.symm terms.symm values.symm

/-- A term is given alike under other keys. -/
theorem Expr.GivesTerm.transfer {left right : Expr} {term : IndexedField}
    (same : left.SameEntry ["field"] right) (given : left.GivesTerm term)
    : right.GivesTerm term := by
  obtain ⟨found, points⟩ := given
  cases same with
  | object agree => exact .object (agree "field" (by decide) ▸ found) points
  | refl => exact .object found points

/-- A value is given alike under other keys. -/
theorem Expr.GivesValue.transfer {left right : Expr} {value : IndexedValue}
    (same : left.SameEntry ["field", "reverse"] right) (given : left.GivesValue value)
    : right.GivesValue value := by
  obtain ⟨found, points, reverse⟩ := given
  cases same with
  | object agree =>
      exact .object (agree "field" (by decide) ▸ found) points
        (agree "reverse" (by decide) ▸ reverse)
  | refl => exact .object found points reverse

/-- A list is given alike by entries that give their items alike. -/
theorem GivesOr.transfer {α : Type} {keys : List String} {gives : Expr → α → Prop}
    {left right : Option Expr} {values : List α}
    (given : GivesOr [] (Expr.GivesList gives) left values)
    (same : Expr.SameEntries keys left right)
    (each : ∀ left right value, left.SameEntry keys right → gives left value → gives right value)
    : GivesOr [] (Expr.GivesList gives) right values := by
  cases same with
  | refl => exact given
  | @array lefts rights pairs =>
      obtain _ | ⟨⟨related⟩⟩ := given
      have paired := forall₂_comp.mp ⟨lefts, pairs.flip, related⟩
      refine .given (.array (paired.imp ?_))
      rintro right value ⟨left, same, given⟩
      exact each left right value same given

/-- An operation on a collection is held alike by parameters that agree on its keys. -/
theorem CollectionCreation.HeldBy.transfer {left right : Entries Expr}
    {creation : CollectionCreation} (agree : left.AgreeOn keys right)
    (held : creation.HeldBy left)
    : creation.HeldBy right := by
  simp only [Entries.AgreeOn, keys, List.forall_mem_cons] at agree
  obtain ⟨name, history, ttl, data, permissions, -⟩ := agree
  exact ⟨name ▸ held.name, history ▸ held.historyDays, ttl ▸ held.ttlDays, data ▸ held.data,
    permissions ▸ held.permissions⟩

/-- An operation on an index is held alike by parameters that agree on its keys and give the same
terms and values.
-/
theorem IndexCreation.HeldBy.transfer {left right : Entries Expr} {creation : IndexCreation}
    (agree : left.AgreeOn keys right)
    (terms : Expr.SameEntries ["field"] (left.find? "terms") (right.find? "terms"))
    (values : Expr.SameEntries ["field", "reverse"] (left.find? "values") (right.find? "values"))
    (held : creation.HeldBy left)
    : creation.HeldBy right := by
  simp only [Entries.AgreeOn, keys, List.forall_mem_cons] at agree
  obtain ⟨name, source, unique, serialized, data, permissions, -⟩ := agree
  exact ⟨name ▸ held.name, source ▸ held.source,
    held.terms.transfer terms fun _ _ _ => Expr.GivesTerm.transfer,
    held.values.transfer values fun _ _ _ => Expr.GivesValue.transfer, unique ▸ held.unique,
    serialized ▸ held.serialized, data ▸ held.data, permissions ▸ held.permissions⟩

/-- An operation is written alike with other parameters of other keys, by the function that is
called; no call is of both functions.
-/
theorem Operation.WrittenAs.transfer {left right : Expr} {operation : Operation}
    (same : left.SameOperation right) (written : operation.WrittenAs left)
    : operation.WrittenAs right := by
  have apart : "create_collection" ≠ "create_index" := by decide
  cases same with
  | createCollection agree =>
      cases operation with
      | createCollection creation =>
          obtain ⟨_, ⟨⟩, held⟩ := written
          exact ⟨_, rfl, held.transfer agree⟩
      | createIndex creation =>
          obtain ⟨_, same, _⟩ := written
          exact absurd (Expr.call.inj same).1 apart
  | createIndex agree terms values =>
      cases operation with
      | createCollection creation =>
          obtain ⟨_, same, _⟩ := written
          exact absurd (Expr.call.inj same).1.symm apart
      | createIndex creation =>
          obtain ⟨_, ⟨⟩, held⟩ := written
          exact ⟨_, rfl, held.transfer agree terms values⟩

-----------------------------------------------------------------------------------------
-- Refusals
-----------------------------------------------------------------------------------------

theorem parameters_fails (function : String) (expr : Expr)
    : FailsOnly Error.OfExpr (expr.parameters function) := by
  unfold Expr.parameters
  split
  · exact .ok _
  · exact .error ⟨_, _, rfl⟩

theorem requireParameter_fails : FailsOnly Error.OfExpr (requireParameter parameters key) := by
  unfold requireParameter
  split
  · exact .ok _
  · exact .error ⟨_, _, rfl⟩

theorem stringParameter_fails : FailsOnly Error.OfExpr (stringParameter parameters key) := by
  refine requireParameter_fails.bind fun expr => ?_
  split
  · exact .ok _
  · exact .error ⟨_, _, rfl⟩

theorem daysParameter_fails : FailsOnly Error.OfExpr (daysParameter parameters key) := by
  unfold daysParameter
  repeat' split
  · exact .ok _
  · exact .ok _
  · exact .error ⟨_, _, rfl⟩

theorem flagParameter_fails : FailsOnly Error.OfExpr (flagParameter parameters key) := by
  unfold flagParameter
  repeat' split
  · exact .ok _
  · exact .ok _
  · exact .error ⟨_, _, rfl⟩

theorem objectParameter_fails : FailsOnly Error.OfExpr (objectParameter parameters key) := by
  unfold objectParameter
  split
  · exact .ok _
  · exact (Expr.toObject_fails _).bind fun _ => .ok _

theorem itemsParameter_fails {α : Type} {ofExpr : Expr → Except Error α}
    (each : ∀ expr, FailsOnly Error.OfExpr (ofExpr expr))
    : FailsOnly Error.OfExpr (itemsParameter parameters key ofExpr) := by
  unfold itemsParameter
  repeat' split
  · exact .ok _
  · exact .mapM fun item _ => each item
  · exact .error ⟨_, _, rfl⟩

theorem sourceParameter_fails {expr : Expr}
    : FailsOnly Error.OfExpr (sourceParameter expr parameters) := by
  unfold sourceParameter
  split
  · exact .ok _
  · exact .error ⟨_, _, rfl⟩

theorem IndexedField.ofExpr_fails (expr : Expr) : FailsOnly Error.OfExpr (ofExpr expr) := by
  unfold ofExpr
  repeat' split
  all_goals first | exact .ok _ | exact .error ⟨_, _, rfl⟩

theorem Expr.entry_fails (expr : Expr) : FailsOnly Error.OfExpr expr.entry := by
  unfold entry
  split
  · exact .ok _
  · exact .error ⟨_, _, rfl⟩

theorem IndexedField.ofEntry_fails (expr : Expr) : FailsOnly Error.OfExpr (ofEntry expr) :=
  expr.entry_fails.bind fun _ => requireParameter_fails.bind ofExpr_fails

theorem IndexedValue.ofEntry_fails (expr : Expr) : FailsOnly Error.OfExpr (ofEntry expr) :=
  expr.entry_fails.bind fun _ =>
    requireParameter_fails.bind fun pointer =>
      (IndexedField.ofExpr_fails pointer).bind fun _ => flagParameter_fails.bind fun _ => .ok _

theorem CollectionCreation.ofExpr_fails (expr : Expr) : FailsOnly Error.OfExpr (ofExpr expr) :=
  (parameters_fails _ expr).bind fun _ =>
    stringParameter_fails.bind fun _ =>
      daysParameter_fails.bind fun _ =>
        daysParameter_fails.bind fun _ =>
          objectParameter_fails.bind fun _ => objectParameter_fails.bind fun _ => .ok _

theorem IndexCreation.ofExpr_fails (expr : Expr) : FailsOnly Error.OfExpr (ofExpr expr) :=
  (parameters_fails _ expr).bind fun _ =>
    sourceParameter_fails.bind fun _ =>
      (itemsParameter_fails IndexedField.ofEntry_fails).bind fun _ =>
        (itemsParameter_fails IndexedValue.ofEntry_fails).bind fun _ =>
          stringParameter_fails.bind fun _ =>
            flagParameter_fails.bind fun _ =>
              flagParameter_fails.bind fun _ =>
                objectParameter_fails.bind fun _ => objectParameter_fails.bind fun _ => .ok _

/-- Reading an operation fails only because of what the expression is. -/
theorem Operation.ofExpr_fails (expr : Expr) : FailsOnly Error.OfExpr (Operation.ofExpr expr) := by
  unfold Operation.ofExpr
  repeat' split
  · exact (CollectionCreation.ofExpr_fails _).bind fun _ => .ok _
  · exact (IndexCreation.ofExpr_fails _).bind fun _ => .ok _
  · exact .error ⟨_, _, rfl⟩
  · exact .error ⟨_, _, rfl⟩

/-- An operation is read from the expressions of its grammar, and from no others. It holds what
the parameters give, other keys make no difference, and any other expression is refused as such.
-/
theorem Operation.ofExpr_grammar (expr : Expr)
    : ((∃ operation, Operation.ofExpr expr = .ok operation) ↔ expr.IsOperation)
      ∧ (∀ operation, Operation.ofExpr expr = .ok operation ↔ operation.WrittenAs expr)
      ∧ (∀ other operation,
          expr.SameOperation other
            → (Operation.ofExpr expr = .ok operation ↔ Operation.ofExpr other = .ok operation))
      ∧ ∀ error,
          Operation.ofExpr expr = .error error
            → ∃ expected found, error = .invalidExpr expected found := by
  refine ⟨?_, fun _ => ofExpr_eq_ok, ?_, ofExpr_fails expr⟩
  · simp only [ofExpr_eq_ok]
    exact exists_writtenAs_iff
  · intro other operation same
    rw [ofExpr_eq_ok, ofExpr_eq_ok]
    exact ⟨.transfer same, .transfer same.symm⟩

end Catalog
