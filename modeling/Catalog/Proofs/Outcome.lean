import Catalog.Error
import Mathlib.Data.List.Forall2
import Mathlib.Data.List.Perm.Basic

/-! When computations that may fail succeed.
A sequence succeeds exactly when each of its steps does.
-/

namespace Catalog.Outcome

variable {ε α β : Type}

/-- A sequence of two steps succeeds exactly when both do in turn. -/
theorem bind_eq_ok {first : Except ε α} {next : α → Except ε β} {result : β}
    : (first >>= next) = .ok result
      ↔ ∃ value, first = .ok value ∧ next value = .ok result := by
  cases first <;> simp [bind, Except.bind]

/-- A check before a step has to pass, and then the step decides. -/
theorem check_bind_eq_ok {check : Except ε Unit} {next : Unit → Except ε β} {result : β}
    : (check >>= next) = .ok result ↔ check = .ok () ∧ next () = .ok result := by
  rw [bind_eq_ok]
  exact ⟨fun ⟨_, passed, rest⟩ => ⟨passed, rest⟩, fun ⟨passed, rest⟩ => ⟨(), passed, rest⟩⟩

@[simp] theorem pure_eq_ok {value result : α}
    : (pure value : Except ε α) = .ok result ↔ value = result := by
  simp [pure, Except.pure]

theorem map_eq_ok {computation : Except ε α} {f : α → β} {result : β}
    : computation.map f = .ok result ↔ ∃ value, computation = .ok value ∧ f value = result := by
  cases computation <;> simp [Except.map]

/-- A computation on the value of an option succeeds exactly when it does on the value. -/
theorem option_mapM_some_eq_ok {f : α → Except ε β} {value : α} {result? : Option β}
    : (some value).mapM f = .ok result?
      ↔ ∃ result, f value = .ok result ∧ some result = result? := by
  rw [Option.mapM_some]
  exact map_eq_ok

/-- A computation with other errors succeeds exactly when the computation does. -/
theorem mapError_eq_ok {ε' : Type} {computation : Except ε α} {f : ε → ε'} {result : α}
    : computation.mapError f = .ok result ↔ computation = .ok result := by
  cases computation <;> simp [Except.mapError]

@[simp] theorem ok_bind (value : α) (next : α → Except ε β)
    : (Except.ok value >>= next) = next value :=
  rfl

@[simp] theorem throw_ne_ok {error : ε} {value : α}
    : (throw error : Except ε α) ≠ .ok value := by
  simp [throw, throwThe, MonadExceptOf.throw]

@[simp] theorem throw_bind (error : ε) (next : α → Except ε β)
    : ((throw error : Except ε α) >>= next) = throw error :=
  rfl

/-- A step leads to a state exactly when it succeeds there. -/
theorem stateAfter_eq_ok {step : Except Error Unit × α} {next : α}
    : stateAfter step = .ok next ↔ step = (.ok (), next) := by
  obtain ⟨outcome, state⟩ := step
  cases outcome <;> simp [stateAfter]

theorem stateAfter_eq_error {step : Except Error Unit × α} {error : Error}
    : stateAfter step = .error error ↔ step.1 = .error error := by
  obtain ⟨outcome, state⟩ := step
  cases outcome <;> simp [stateAfter]

/-- A traversal succeeds exactly when every item does, with the results in order of the items;
by induction on the items.
-/
theorem mapM_eq_ok {f : α → Except ε β} {items : List α} {results : List β}
    : items.mapM f = .ok results
      ↔ List.Forall₂ (fun item result => f item = .ok result) items results := by
  induction items generalizing results with
  | nil =>
      simp only [List.mapM_nil, pure_eq_ok, List.forall₂_nil_left_iff]
      exact eq_comm
  | cons item rest ih =>
      simp only [List.mapM_cons, bind_eq_ok, ih, pure_eq_ok, List.forall₂_cons_left_iff]
      constructor
      · rintro ⟨result, head, tail, related, rfl⟩
        exact ⟨result, tail, head, related, rfl⟩
      · rintro ⟨result, tail, head, related, rfl⟩
        exact ⟨result, head, tail, related, rfl⟩

/-- A traversal whose steps map their results maps the results of the traversal, by induction
on the items.
-/
theorem mapM_map_eq {γ : Type} (f : α → Except ε β) (g : β → γ) (items : List α)
    : (items.mapM fun item => (f item).map g) = (items.mapM f).map (List.map g) := by
  induction items with
  | nil => rfl
  | cons item rest ih =>
      rw [List.mapM_cons, List.mapM_cons, ih]
      rcases f item with error | value
      · rfl
      · rcases rest.mapM f with error | values <;> rfl

/-- Lists that are related in two steps are related item by item in two steps, by induction on the
items.
-/
theorem forall₂_comp {γ : Type} {first : α → β → Prop} {second : β → γ → Prop} {items : List α}
    {results : List γ}
    : (∃ values, List.Forall₂ first items values ∧ List.Forall₂ second values results)
      ↔ List.Forall₂ (fun item result => ∃ value, first item value ∧ second value result)
          items results := by
  constructor
  · rintro ⟨values, firsts, seconds⟩
    induction firsts generalizing results with
    | nil =>
        cases seconds
        exact .nil
    | cons head _ ih =>
        cases seconds with
        | cons next rest => exact .cons ⟨_, head, next⟩ (ih rest)
  · intro related
    induction related with
    | nil => exact ⟨[], .nil, .nil⟩
    | cons pair _ ih =>
        obtain ⟨value, head, next⟩ := pair
        obtain ⟨values, firsts, seconds⟩ := ih
        exact ⟨value :: values, .cons head firsts, .cons next seconds⟩

/-- Lists that are related for certain results only are related with such results only, by
induction on the items.
-/
theorem forall₂_restrict {related other : α → β → Prop} {holds : β → Prop} {items : List α}
    {results : List β}
    (each : ∀ item ∈ items, ∀ result, related item result ↔ other item result ∧ holds result)
    : List.Forall₂ related items results
      ↔ List.Forall₂ other items results ∧ ∀ result ∈ results, holds result := by
  induction items generalizing results with
  | nil =>
      simp only [List.forall₂_nil_left_iff]
      exact ⟨fun same => ⟨same, same ▸ nofun⟩, And.left⟩
  | cons item rest ih =>
      rw [List.forall_mem_cons] at each
      simp only [List.forall₂_cons_left_iff, each.1, ih each.2]
      constructor
      · rintro ⟨result, others, ⟨head, headHolds⟩, ⟨tail, tailHolds⟩, rfl⟩
        exact ⟨⟨result, others, head, tail, rfl⟩, List.forall_mem_cons.mpr ⟨headHolds, tailHolds⟩⟩
      · rintro ⟨⟨result, others, head, tail, rfl⟩, all⟩
        obtain ⟨headHolds, tailHolds⟩ := List.forall_mem_cons.mp all
        exact ⟨result, others, ⟨head, headHolds⟩, ⟨tail, tailHolds⟩, rfl⟩

/-- Lists are related item by item alike by two relations that agree on the items of the first. -/
theorem forall₂_congr_of_mem {related other : α → β → Prop} {items : List α} {results : List β}
    (each : ∀ item ∈ items, ∀ result, related item result ↔ other item result)
    : List.Forall₂ related items results ↔ List.Forall₂ other items results := by
  have restricted := @forall₂_restrict α β related other (fun _ => True) items results
    (fun item member result => (each item member result).trans (and_iff_left trivial).symm)
  exact restricted.trans (and_iff_left fun _ _ => trivial)

/-- A traversal whose steps are two steps each succeeds exactly when the traversals with the
first and with the second steps do.
-/
theorem mapM_comp_eq_ok {γ : Type} {f : α → Except ε γ} {first : α → Except ε β}
    {second : β → Except ε γ}
    (each : ∀ item result,
      f item = .ok result ↔ ∃ value, first item = .ok value ∧ second value = .ok result)
    {items : List α} {results : List γ}
    : items.mapM f = .ok results
      ↔ ∃ values, items.mapM first = .ok values ∧ values.mapM second = .ok results := by
  simp only [mapM_eq_ok, each, forall₂_comp]

/-- A traversal whose steps succeed for certain results only has such results only. -/
theorem mapM_restrict {ε' : Type} {f : α → Except ε β} {g : α → Except ε' β} {holds : β → Prop}
    {items : List α} {results : List β}
    (each : ∀ item ∈ items, ∀ result,
      f item = .ok result ↔ g item = .ok result ∧ holds result)
    : items.mapM f = .ok results
      ↔ items.mapM g = .ok results ∧ ∀ result ∈ results, holds result := by
  rw [mapM_eq_ok, mapM_eq_ok, forall₂_restrict each]

/-- Every item of the first of two related lists is related to one of the second list, by
induction on the items.
-/
theorem exists_mem_of_forall₂ {related : α → β → Prop} {items : List α} {results : List β}
    (each : List.Forall₂ related items results)
    : ∀ item ∈ items, ∃ result ∈ results, related item result := by
  induction each with
  | nil => exact nofun
  | @cons item result rest others first _ ih =>
      intro found member
      rcases List.mem_cons.mp member with rfl | later
      · exact ⟨result, List.mem_cons_self, first⟩
      · obtain ⟨other, present, same⟩ := ih found later
        exact ⟨other, List.mem_cons_of_mem _ present, same⟩

/-- Every result of a traversal is that of an item. -/
theorem exists_of_mem_mapM {f : α → Except ε β} {items : List α} {results : List β}
    (succeeds : items.mapM f = .ok results)
    : ∀ result ∈ results, ∃ item ∈ items, f item = .ok result := by
  have flipped : List.Forall₂ (fun result item => f item = .ok result) results items :=
    (mapM_eq_ok.mp succeeds).flip
  exact exists_mem_of_forall₂ flipped

/-- Every item of a traversal has a result. -/
theorem exists_mem_of_mapM {f : α → Except ε β} {items : List α} {results : List β}
    (succeeds : items.mapM f = .ok results)
    : ∀ item ∈ items, ∃ result ∈ results, f item = .ok result :=
  exists_mem_of_forall₂ (mapM_eq_ok.mp succeeds)

/-- At every position of a traversal stands an item with its result, or nothing stands there in
either list; by induction on the items.
-/
theorem getElem?_cases_of_mapM {f : α → Except ε β} {items : List α} {results : List β}
    (succeeds : items.mapM f = .ok results) (position : Nat)
    : (items[position]? = none ∧ results[position]? = none)
      ∨ ∃ item result,
          items[position]? = some item ∧ results[position]? = some result ∧ f item = .ok result := by
  rw [mapM_eq_ok] at succeeds
  induction succeeds generalizing position with
  | nil => simp
  | cons first _ ih =>
      cases position with
      | zero => simpa using first
      | succ position => simpa using ih position

/-- Items are related to some list exactly if each of them is related to something, by induction
on the items.
-/
theorem exists_forall₂_iff {related : α → β → Prop} {items : List α}
    : (∃ results, List.Forall₂ related items results)
      ↔ ∀ item ∈ items, ∃ result, related item result := by
  constructor
  · rintro ⟨results, each⟩ item member
    obtain ⟨result, _, pair⟩ := exists_mem_of_forall₂ each item member
    exact ⟨result, pair⟩
  · intro each
    induction items with
    | nil => exact ⟨[], .nil⟩
    | cons item rest ih =>
        rw [List.forall_mem_cons] at each
        obtain ⟨result, first⟩ := each.1
        obtain ⟨results, others⟩ := ih each.2
        exact ⟨result :: results, .cons first others⟩

/-- A traversal succeeds if every item does. -/
theorem exists_mapM_eq_ok {f : α → Except ε β} {items : List α}
    (succeeds : ∀ item ∈ items, ∃ result, f item = .ok result)
    : ∃ results, items.mapM f = .ok results := by
  simp only [mapM_eq_ok]
  exact exists_forall₂_iff.mpr succeeds

/-- A traversal that collects lists may leave out the items for which it finds nothing, by
induction on the items.
-/
theorem mapM_flatten_filter {f g : α → Except ε (List β)} {keep : α → Bool}
    (kept : ∀ item, keep item = true → f item = g item)
    (dropped : ∀ item, keep item = false → f item = .ok []) (items : List α)
    : (return (← items.mapM f).flatten) = (return (← (items.filter keep).mapM g).flatten) := by
  induction items with
  | nil => rfl
  | cons item rest ih =>
      cases keeps : keep item with
      | true =>
          simp only [List.filter_cons, keeps, if_true, List.mapM_cons, kept item keeps, bind_assoc,
            pure_bind, List.flatten_cons]
          refine congrArg _ (funext fun found => ?_)
          have later := congrArg (· >>= fun later => pure (found ++ later)) ih
          simpa only [bind_assoc, pure_bind] using later
      | false =>
          simp only [List.filter_cons, keeps, Bool.false_eq_true, if_false, List.mapM_cons, ← ih,
            dropped item keeps, ok_bind, bind_assoc, pure_bind, List.flatten_cons, List.nil_append]

/-- Items in another order have the same results in another order, if all of them succeed. -/
theorem exists_perm_of_map_eq {f : α → Except ε β} {items others : List α} {results : List β}
    (succeeds : items.map f = results.map .ok) (same : others.Perm items)
    : ∃ permuted : List β, others.map f = permuted.map .ok ∧ permuted.Perm results := by
  have permuted := same.map f
  rw [succeeds] at permuted
  obtain ⟨reordered, mapped, permutation⟩ :=
    (congrFun₂ (List.eq_map_comp_perm Except.ok) _ _).mpr permuted
  exact ⟨reordered, mapped, permutation⟩

/-- A computation that succeeds still does when its value is mapped. -/
theorem exists_return_eq_ok {computation : Except ε α}
    (succeeds : ∃ value, computation = .ok value) (f : α → β)
    : ∃ result, (return f (← computation)) = Except.ok (ε := ε) result := by
  obtain ⟨value, rfl⟩ := succeeds
  exact ⟨f value, rfl⟩

-----------------------------------------------------------------------------------------
-- Computations without their values
-----------------------------------------------------------------------------------------

/-- A computation without its value succeeds exactly when the computation does. -/
theorem discard_eq_ok {computation : Except ε α}
    : discard computation = .ok () ↔ ∃ value, computation = .ok value := by
  cases computation <;> simp [Functor.discard, Functor.mapConst, Except.map]

/-- A computation without its value fails with the errors of the computation. -/
theorem discard_eq_error {computation : Except ε α} {error : ε}
    : discard computation = .error error ↔ computation = .error error := by
  cases computation <;> simp [Functor.discard, Functor.mapConst, Except.map]

/-- A mapped computation is the same without its value. -/
theorem discard_map (computation : Except ε α) (f : α → β)
    : discard (computation.map f) = discard computation := by
  cases computation <;> rfl

theorem discard_unit (check : Except ε Unit) : discard check = check := by
  rcases check with error | ⟨⟨⟩⟩ <;> rfl

/-- A sequence without its value does each step without its value, if the second one is the
same without its value whatever the value of the first.
-/
theorem discard_bind {first : Except ε α} {next : α → Except ε β} {rest : Except ε Unit}
    (same : ∀ value, discard (next value) = rest)
    : discard (first >>= next) = discard first >>= fun _ => rest := by
  cases first with
  | error error => rfl
  | ok value => exact same value

/-- A traversal without its results does each step without its result, by induction on the
items.
-/
theorem discard_mapM (f : α → Except ε β) (items : List α)
    : discard (items.mapM f) = items.forM fun item => discard (f item) := by
  induction items with
  | nil => rfl
  | cons item rest ih =>
      rw [List.mapM_cons]
      exact discard_bind fun _ => (discard_map _ _).trans ih

/-- A traversal of the items that are chosen is one of all items that does nothing for the
others; by induction on the items.
-/
theorem forM_filterMap (choose : α → Option β) (check : β → Except ε Unit) (items : List α)
    : (items.filterMap choose).forM check
      = items.forM fun item => (choose item).elim (.ok ()) check := by
  simp only [List.forM_eq_forM]
  induction items with
  | nil => rfl
  | cons item rest ih =>
      cases chosen : choose item with
      | none => simp only [List.filterMap_cons, List.forM_cons, chosen, ih, Option.elim, ok_bind]
      | some value => simp only [List.filterMap_cons, List.forM_cons, chosen, ih, Option.elim]

/-- A traversal without results succeeds exactly when every item passes, by induction on the
items.
-/
theorem forM_eq_ok {check : α → Except ε Unit} {items : List α}
    : items.forM check = .ok () ↔ ∀ item ∈ items, check item = .ok () := by
  rw [List.forM_eq_forM]
  induction items with
  | nil => simp
  | cons item rest ih =>
      rw [List.forM_cons, check_bind_eq_ok, ih, List.forall_mem_cons]

-----------------------------------------------------------------------------------------
-- How computations fail
-----------------------------------------------------------------------------------------

/-- A loop fails exactly if it reaches an item at which its step fails, by induction on the items.
-/
theorem foldlM_eq_error {step : β → α → Except ε β} {state : β} {items : List α} {error : ε}
    : items.foldlM step state = .error error
      ↔ ∃ before item after middle,
          items = before ++ item :: after
          ∧ before.foldlM step state = .ok middle
          ∧ step middle item = .error error := by
  constructor
  · intro failed
    induction items generalizing state with
    | nil => nomatch failed
    | cons first rest ih =>
        cases reached : step state first with
        | error stopped =>
            have same : stopped = error := by simpa [reached, bind, Except.bind] using failed
            exact ⟨[], first, rest, state, rfl, rfl, same ▸ reached⟩
        | ok next =>
            rw [List.foldlM_cons, reached, ok_bind] at failed
            obtain ⟨before, item, after, middle, split, passed, stopped⟩ := ih failed
            refine ⟨first :: before, item, after, middle, by rw [split, List.cons_append], ?_, stopped⟩
            rw [List.foldlM_cons, reached, ok_bind, passed]
  · intro ⟨before, item, after, middle, split, passed, stopped⟩
    rw [split, List.foldlM_append, passed, ok_bind, List.foldlM_cons, stopped]
    rfl

/-- The error of a computation that fails. -/
def error? : Except ε α → Option ε
  | .error error => some error
  | .ok _ => none

theorem error?_eq_some {computation : Except ε α} {error : ε}
    : error? computation = some error ↔ computation = .error error := by
  cases computation <;> simp [error?]

/-- A sequence fails as its first step does, or else as the second one, if that one fails alike
whatever the value of the first.
-/
theorem error?_bind {first : Except ε α} {next : α → Except ε β} {later : Option ε}
    (alike : ∀ value, error? (next value) = later)
    : error? (first >>= next) = (error? first).or later := by
  cases first with
  | error error => rfl
  | ok value => exact alike value

/-- A computation still fails alike when its value is mapped. -/
theorem error?_return (computation : Except ε α) (f : α → β)
    : error? (return f (← computation)) = error? computation := by
  cases computation <;> rfl

/-- A computation fails with errors of one kind only. -/
def FailsOnly (kind : ε → Prop) (computation : Except ε α) : Prop :=
  ∀ error, computation = .error error → kind error

variable {kind : ε → Prop}

theorem FailsOnly.ok (value : α) : FailsOnly kind (.ok value : Except ε α) :=
  fun _ failed => nomatch failed

/-- A plain error is of the kind if it is itself. -/
theorem FailsOnly.error {error : ε} (holds : kind error)
    : FailsOnly kind (.error error : Except ε α) := by
  rintro _ ⟨⟩
  exact holds

theorem FailsOnly.mono {other : ε → Prop} {computation : Except ε α}
    (fails : FailsOnly kind computation) (weaker : ∀ error, kind error → other error)
    : FailsOnly other computation :=
  fun error failed => weaker error (fails error failed)

/-- A sequence fails only as its steps do. -/
theorem FailsOnly.bind {first : Except ε α} {next : α → Except ε β}
    (firstFails : FailsOnly kind first) (nextFails : ∀ value, FailsOnly kind (next value))
    : FailsOnly kind (first >>= next) := by
  cases first with
  | error error => exact .error (firstFails error rfl)
  | ok value => exact nextFails value

/-- A sequence fails only as its steps do, of which the second one has the value of the first. -/
theorem FailsOnly.bind_of_ok {first : Except ε α} {next : α → Except ε β}
    (firstFails : FailsOnly kind first)
    (nextFails : ∀ value, first = .ok value → FailsOnly kind (next value))
    : FailsOnly kind (first >>= next) := by
  cases first with
  | error error => exact .error (firstFails error rfl)
  | ok value => exact nextFails value rfl

/-- A mapped computation fails only as the computation does. -/
theorem FailsOnly.map {computation : Except ε α} (fails : FailsOnly kind computation)
    (f : α → β)
    : FailsOnly kind (computation.map f) := by
  cases computation with
  | error error => exact .error (fails error rfl)
  | ok value => exact .ok (f value)

/-- A computation on the value of an option fails only as it does on the value. -/
theorem FailsOnly.option_mapM {f : α → Except ε β} {value? : Option α}
    (fails : ∀ value ∈ value?, FailsOnly kind (f value))
    : FailsOnly kind (value?.mapM f) := by
  cases value? with
  | none => exact .ok none
  | some value =>
      rw [Option.mapM_some]
      exact (fails value rfl).map some

/-- A traversal fails only as its items do, by induction on the items. -/
theorem FailsOnly.mapM {f : α → Except ε β} {items : List α}
    (fails : ∀ item ∈ items, FailsOnly kind (f item))
    : FailsOnly kind (items.mapM f) := by
  induction items with
  | nil => exact .ok []
  | cons item rest ih =>
      rw [List.mapM_cons]
      have first := fails item List.mem_cons_self
      have others := ih fun other member => fails other (List.mem_cons_of_mem _ member)
      exact first.bind fun _ => others.bind fun _ => .ok _

/-- A traversal without results fails only as its items do, by induction on the items. -/
theorem FailsOnly.forM {check : α → Except ε Unit} {items : List α}
    (fails : ∀ item ∈ items, FailsOnly kind (check item))
    : FailsOnly kind (items.forM check) := by
  rw [List.forM_eq_forM]
  induction items with
  | nil => exact .ok ()
  | cons item rest ih =>
      rw [List.forM_cons]
      have first := fails item List.mem_cons_self
      have others := ih fun other member => fails other (List.mem_cons_of_mem _ member)
      exact first.bind fun _ => others

/-- A loop fails only as its steps do, by induction on the items. -/
theorem FailsOnly.foldlM {step : β → α → Except ε β} {state : β} {items : List α}
    (fails : ∀ state item, FailsOnly kind (step state item))
    : FailsOnly kind (items.foldlM step state) := by
  induction items generalizing state with
  | nil => exact .ok state
  | cons item rest ih =>
      rw [List.foldlM_cons]
      exact (fails state item).bind fun _ => ih

end Catalog.Outcome
