import Catalog.Operation.Expression
import Catalog.Proofs.Expr.CallFree

/-! What the parameters of an operation stand for.
Reading succeeds exactly with the value that an expression stands for: a literal for a string, a
flag, a number of days or data, an array for a list. What is missing stands for its default.
-/

namespace Catalog

open Outcome

-----------------------------------------------------------------------------------------
-- What expressions stand for
-----------------------------------------------------------------------------------------

/-- A literal gives a number of days if it is a signed integer of that value. -/
inductive Expr.GivesDays : Expr → Days → Prop
  | int {value : Int64} {days : Days} (same : value.toInt = days.toNat)
    : GivesDays (.int value) days

/-- A literal gives an object if this is its data. -/
def Expr.GivesObject (expr : Expr) (object : JsonObject) : Prop :=
  expr.toJson = .ok (.object object)

/-- A literal gives a flag. -/
inductive Expr.GivesFlag : Expr → Bool → Prop
  | bool (flag : Bool) : GivesFlag (.bool flag) flag

/-- An array gives a list of what its items give. -/
inductive Expr.GivesList {α : Type} (gives : Expr → α → Prop) : Expr → List α → Prop
  | array {items : List Expr} {values : List α} (each : List.Forall₂ gives items values)
    : GivesList gives (.array items) values

/-- A value that may be missing is what is given for it, or else its default. -/
inductive GivesOr {α : Type} (default : α) (gives : Expr → α → Prop) : Option Expr → α → Prop
  | missing : GivesOr default gives none default
  | given {expr : Expr} {value : α} (given : gives expr value)
    : GivesOr default gives (some expr) value

/-- What an index field points at: the reference, the time of the last write, or a path into the
data.
-/
inductive Expr.PointsAt : Expr → IndexedField → Prop
  | reference : PointsAt (.string "ref") .reference
  | timestamp : PointsAt (.string "ts") .timestamp
  | data (name : String) : PointsAt (.array [.string "data", .string name]) (.data name)

/-- The entry of a term. -/
inductive Expr.GivesTerm : Expr → IndexedField → Prop
  | object {entry : Entries Expr} {pointer : Expr} {term : IndexedField}
    (found : entry.find? "field" = some pointer) (points : pointer.PointsAt term)
    : GivesTerm (.object entry) term

/-- The entry of a value. -/
inductive Expr.GivesValue : Expr → IndexedValue → Prop
  | object {entry : Entries Expr} {pointer : Expr} {value : IndexedValue}
    (found : entry.find? "field" = some pointer) (points : pointer.PointsAt value.field)
    (reverse : GivesOr false Expr.GivesFlag (entry.find? "reverse") value.reverse)
    : GivesValue (.object entry) value

/-- The parameters of an operation on a collection. -/
structure CollectionCreation.HeldBy (parameters : Entries Expr) (creation : CollectionCreation)
    : Prop where
  name : parameters.find? "name" = some (.string creation.name)
  historyDays
    : Option.Rel Expr.GivesDays (parameters.find? "history_days") creation.historyDays?
  ttlDays : Option.Rel Expr.GivesDays (parameters.find? "ttl_days") creation.ttlDays?
  data : Option.Rel Expr.GivesObject (parameters.find? "data") creation.data?
  permissions : Option.Rel Expr.GivesObject (parameters.find? "permissions") creation.permissions?

/-- The parameters of an operation on an index. -/
structure IndexCreation.HeldBy (parameters : Entries Expr) (creation : IndexCreation)
    : Prop where
  name : parameters.find? "name" = some (.string creation.name)
  source : parameters.find? "source" = some (.call "collection" (.string creation.source))
  terms : GivesOr [] (Expr.GivesList Expr.GivesTerm) (parameters.find? "terms") creation.terms
  values
    : GivesOr [] (Expr.GivesList Expr.GivesValue) (parameters.find? "values") creation.values
  unique : GivesOr false Expr.GivesFlag (parameters.find? "unique") creation.unique
  serialized : GivesOr true Expr.GivesFlag (parameters.find? "serialized") creation.serialized
  data : Option.Rel Expr.GivesObject (parameters.find? "data") creation.data?
  permissions : Option.Rel Expr.GivesObject (parameters.find? "permissions") creation.permissions?

/-- The expressions that stand for an operation: calls of its function with its parameters. -/
def Operation.WrittenAs (expr : Expr) : Operation → Prop
  | .createCollection creation =>
      ∃ parameters,
        expr = .call "create_collection" (.object parameters) ∧ creation.HeldBy parameters
  | .createIndex creation =>
      ∃ parameters, expr = .call "create_index" (.object parameters) ∧ creation.HeldBy parameters

-----------------------------------------------------------------------------------------
-- Reading parameters
-----------------------------------------------------------------------------------------

variable {parameters : Entries Expr} {key : String}

/-- A call to a function is the only expression with an argument of that function. -/
theorem Expr.eq_call_of_argumentOf? {function : String} {expr argument : Expr}
    (called : expr.argumentOf? function = some argument)
    : expr = .call function argument := by
  cases expr with
  | call name given =>
      obtain ⟨rfl, same⟩ := Option.ite_none_right_eq_some.mp called
      rw [Option.some_inj.mp same]
  | null | bool _ | int _ | uint _ | float _ | string _ | array _ | object _ => nomatch called

/-- A call to a function has parameters if its argument is an object. -/
theorem Expr.parameters_eq_ok {function : String} {expr : Expr}
    : expr.parameters function = .ok parameters ↔ expr = .call function (.object parameters) := by
  unfold Expr.parameters
  constructor
  · intro read
    split at read
    case h_1 found present =>
      cases read
      obtain ⟨argument, called, object⟩ := Option.bind_eq_some_iff.mp present
      cases argument <;> cases object
      exact eq_call_of_argumentOf? called
    case h_2 => nomatch read
  · rintro rfl
    simp only [argumentOf?, if_true, Option.bind_some, object?]

/-- A parameter that has to be a string. -/
theorem stringParameter_eq_ok {value : String}
    : stringParameter parameters key = .ok value
      ↔ parameters.find? key = some (.string value) := by
  unfold stringParameter requireParameter
  cases parameters.find? key with
  | none => exact ⟨nofun, nofun⟩
  | some expr => cases expr <;> simp

/-- The days of a literal are the ones that it gives. -/
theorem Expr.days?_eq_some_iff {expr : Expr} {days : Days}
    : expr.days? = some days ↔ expr.GivesDays days := by
  cases expr with
  | int value =>
      rw [days?, Number.uint32?_eq_some_iff]
      exact ⟨fun same => .int same.symm, fun | .int same => same.symm⟩
  | null | bool _ | uint _ | float _ | string _ | array _ | object _ | call _ _ =>
      exact ⟨nofun, nofun⟩

/-- An optional day count is one that a literal gives. -/
theorem daysParameter_eq_ok {days? : Option Days}
    : daysParameter parameters key = .ok days?
      ↔ Option.Rel Expr.GivesDays (parameters.find? key) days? := by
  unfold daysParameter
  cases parameters.find? key with
  | none => cases days? <;> simp
  | some expr =>
      cases days? with
      | none => cases given : expr.days? <;> simp [given]
      | some days =>
          rw [Option.rel_some_some, ← Expr.days?_eq_some_iff]
          cases given : expr.days? <;> simp [given]

/-- An optional object is the data of a literal. -/
theorem objectParameter_eq_ok {object? : Option JsonObject}
    : objectParameter parameters key = .ok object?
      ↔ Option.Rel Expr.GivesObject (parameters.find? key) object? := by
  unfold objectParameter
  cases parameters.find? key with
  | none => cases object? <;> simp
  | some expr =>
      simp only [bind_eq_ok, pure_eq_ok, Expr.toObject_eq_ok]
      cases object? <;> simp [Expr.GivesObject]

/-- A flag is what is given for it, or else its default. -/
theorem flagParameter_eq_ok {default flag : Bool}
    : (∃ flag?, flagParameter parameters key = .ok flag? ∧ flag?.getD default = flag)
      ↔ GivesOr default Expr.GivesFlag (parameters.find? key) flag := by
  unfold flagParameter
  cases parameters.find? key with
  | none =>
      constructor
      · rintro ⟨flag?, ⟨⟩, rfl⟩
        exact .missing
      · rintro ⟨⟩
        exact ⟨none, rfl, rfl⟩
  | some expr =>
      constructor
      · rintro ⟨flag?, read, rfl⟩
        cases expr with
        | bool given =>
            cases read
            exact .given (.bool given)
        | null | int _ | uint _ | float _ | string _ | array _ | object _ | call _ _ =>
            nomatch read
      · rintro (_ | ⟨⟨flag⟩⟩)
        exact ⟨some flag, rfl, rfl⟩

/-- A list holds what its items give; a missing one is empty. -/
theorem itemsParameter_eq_ok {α : Type} {ofExpr : Expr → Except Error α}
    {gives : Expr → α → Prop} (each : ∀ expr value, ofExpr expr = .ok value ↔ gives expr value)
    {values : List α}
    : itemsParameter parameters key ofExpr = .ok values
      ↔ GivesOr [] (Expr.GivesList gives) (parameters.find? key) values := by
  unfold itemsParameter
  cases parameters.find? key with
  | none => exact ⟨fun | rfl => .missing, fun | .missing => rfl⟩
  | some expr =>
      cases expr with
      | array items =>
          simp only [Expr.array?, mapM_eq_ok, each]
          exact ⟨fun related => .given (.array related), fun | .given (.array related) => related⟩
      | null | bool _ | int _ | uint _ | float _ | string _ | object _ | call _ _ =>
          exact ⟨nofun, fun | .given given => nomatch given⟩

/-- The source of an index is the name in a reference to a collection. -/
theorem sourceParameter_eq_ok {expr : Expr} {source : String}
    : sourceParameter expr parameters = .ok source
      ↔ parameters.find? "source" = some (.collection source) := by
  unfold sourceParameter
  constructor
  · intro read
    split at read
    case h_1 name present =>
      cases read
      obtain ⟨argument, present, text⟩ := Option.bind_eq_some_iff.mp present
      obtain ⟨reference, found, call⟩ := Option.bind_eq_some_iff.mp present
      cases argument <;> cases text
      rw [found, Expr.eq_call_of_argumentOf? call]
      rfl
    case h_2 => nomatch read
  · intro found
    rw [found]
    rfl

-----------------------------------------------------------------------------------------
-- Reading operations
-----------------------------------------------------------------------------------------

/-- What an index field points at, by its form. -/
theorem IndexedField.ofExpr_eq_ok {expr : Expr} {field : IndexedField}
    : ofExpr expr = .ok field ↔ expr.PointsAt field := by
  constructor
  · intro read
    unfold ofExpr at read
    split at read
    case h_1 word =>
      split_ifs at read with isReference isTimestamp
      · cases read
        exact isReference ▸ .reference
      · cases read
        exact isTimestamp ▸ .timestamp
    case h_2 root name =>
      split_ifs at read with isData
      cases read
      exact isData ▸ .data name
    case h_3 => nomatch read
    case h_4 => nomatch read
  · rintro (_ | _ | name) <;> simp [ofExpr]

/-- The entries of an object. -/
theorem Expr.entry_eq_ok {expr : Expr} {entries : Entries Expr}
    : expr.entry = .ok entries ↔ expr = .object entries := by
  cases expr <;> simp [entry, object?]

theorem requireParameter_eq_ok {value : Expr}
    : requireParameter parameters key = .ok value ↔ parameters.find? key = some value := by
  unfold requireParameter
  cases parameters.find? key <;> simp

/-- The entry of a term is read through its one parameter. -/
theorem IndexedField.ofEntry_eq_ok {expr : Expr} {term : IndexedField}
    : ofEntry expr = .ok term ↔ expr.GivesTerm term := by
  simp only [ofEntry, bind_eq_ok, Expr.entry_eq_ok, requireParameter_eq_ok, ofExpr_eq_ok]
  constructor
  · rintro ⟨entry, rfl, pointer, found, points⟩
    exact .object found points
  · rintro ⟨found, points⟩
    exact ⟨_, rfl, _, found, points⟩

/-- The entry of a value is read through its two parameters. -/
theorem IndexedValue.ofEntry_eq_ok {expr : Expr} {value : IndexedValue}
    : ofEntry expr = .ok value ↔ expr.GivesValue value := by
  simp only [ofEntry, bind_eq_ok, Expr.entry_eq_ok, requireParameter_eq_ok,
    IndexedField.ofExpr_eq_ok, pure_eq_ok]
  constructor
  · rintro ⟨entry, rfl, pointer, found, field, points, flag?, reverse, rfl⟩
    exact .object found points (flagParameter_eq_ok.mp ⟨flag?, reverse, rfl⟩)
  · rintro ⟨found, points, reverse⟩
    obtain ⟨flag?, read, same⟩ := flagParameter_eq_ok.mpr reverse
    exact ⟨_, rfl, _, found, _, points, flag?, read, congrArg _ same⟩

/-- An operation on a collection is read through its parameters. -/
theorem CollectionCreation.ofExpr_eq_ok {expr : Expr} {creation : CollectionCreation}
    : ofExpr expr = .ok creation
      ↔ ∃ parameters,
          expr = .call createCollectionFunction (.object parameters)
          ∧ creation.HeldBy parameters := by
  simp only [ofExpr, bind_eq_ok, Expr.parameters_eq_ok, stringParameter_eq_ok,
    daysParameter_eq_ok, objectParameter_eq_ok, pure_eq_ok]
  constructor
  · rintro ⟨parameters, rfl, name, named, history, kept, ttl, expires, data, described, permissions,
      granted, rfl⟩
    exact ⟨parameters, rfl, named, kept, expires, described, granted⟩
  · rintro ⟨parameters, rfl, held⟩
    exact ⟨parameters, rfl, _, held.name, _, held.historyDays, _, held.ttlDays, _, held.data, _,
      held.permissions, rfl⟩

/-- An operation on an index is read through its parameters. -/
theorem IndexCreation.ofExpr_eq_ok {expr : Expr} {creation : IndexCreation}
    : ofExpr expr = .ok creation
      ↔ ∃ parameters,
          expr = .call createIndexFunction (.object parameters) ∧ creation.HeldBy parameters := by
  simp only [ofExpr, bind_eq_ok, Expr.parameters_eq_ok, sourceParameter_eq_ok,
    itemsParameter_eq_ok fun _ _ => IndexedField.ofEntry_eq_ok,
    itemsParameter_eq_ok fun _ _ => IndexedValue.ofEntry_eq_ok, stringParameter_eq_ok,
    objectParameter_eq_ok, pure_eq_ok]
  constructor
  · rintro ⟨parameters, rfl, source, referred, terms, listed, values, sorted, name, named, unique?,
      unique, serialized?, serialized, data, described, permissions, granted, rfl⟩
    exact ⟨parameters, rfl, named, referred, listed, sorted,
      flagParameter_eq_ok.mp ⟨unique?, unique, rfl⟩,
      flagParameter_eq_ok.mp ⟨serialized?, serialized, rfl⟩, described, granted⟩
  · rintro ⟨parameters, rfl, held⟩
    obtain ⟨unique?, unique, isUnique⟩ := flagParameter_eq_ok.mpr held.unique
    obtain ⟨serialized?, serialized, isSerialized⟩ := flagParameter_eq_ok.mpr held.serialized
    refine ⟨parameters, rfl, _, held.source, _, held.terms, _, held.values, _, held.name, unique?,
      unique, serialized?, serialized, _, held.data, _, held.permissions, ?_⟩
    rw [isUnique, isSerialized]

/-- An operation is read by the function that is called. -/
theorem Operation.ofExpr_eq_ok {expr : Expr} {operation : Operation}
    : Operation.ofExpr expr = .ok operation ↔ operation.WrittenAs expr := by
  constructor
  · intro read
    unfold Operation.ofExpr at read
    split at read
    case h_1 function argument =>
      split_ifs at read
      · obtain ⟨creation, read, done⟩ := bind_eq_ok.mp read
        rw [← pure_eq_ok.mp done]
        exact CollectionCreation.ofExpr_eq_ok.mp read
      · obtain ⟨creation, read, done⟩ := bind_eq_ok.mp read
        rw [← pure_eq_ok.mp done]
        exact IndexCreation.ofExpr_eq_ok.mp read
    case h_2 => nomatch read
  · intro written
    cases operation with
    | createCollection creation =>
        have read := CollectionCreation.ofExpr_eq_ok.mpr written
        obtain ⟨parameters, rfl, _⟩ := written
        exact bind_eq_ok.mpr ⟨creation, read, rfl⟩
    | createIndex creation =>
        have read := IndexCreation.ofExpr_eq_ok.mpr written
        obtain ⟨parameters, rfl, _⟩ := written
        exact bind_eq_ok.mpr ⟨creation, read, rfl⟩

end Catalog
