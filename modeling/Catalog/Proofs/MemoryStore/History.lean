import Catalog.Proofs.Database.PassTrace
import Catalog.Proofs.MemoryStore.Execution

/-! The history of a store that starts empty, over any executed expressions and purges.
Whatever is submitted, understood or not, the store stays well-formed, and the expressions that
it has recorded lead an empty store to the same answers and the same state.
-/

namespace Catalog

namespace MemoryStore

-----------------------------------------------------------------------------------------
-- Stores
-----------------------------------------------------------------------------------------

/-- Collections and indexes are stored in order and under their own names, indexes on stored
collections. The clock has advanced once for each of them.
-/
structure WellFormed (store : MemoryStore) : Prop where
  ordered : store.Ordered
  collections : Entries.NamedBy CollectionCreation.name store.collections
  indexes : Entries.NamedBy IndexCreation.name store.indexes
  sources
    : ∀ name creation,
        store.indexes.find? name = some creation → store.HoldsSource (.createIndex creation)
  clock : store.clock = store.collections.length + store.indexes.length

theorem wellFormed_empty : empty.WellFormed where
  ordered := ⟨.nil, .nil⟩
  collections := fun _ _ found => nomatch found
  indexes := fun _ _ found => nomatch found
  sources := fun _ _ found => nomatch found
  clock := rfl

theorem WellFormed.record {store : MemoryStore} (wellFormed : store.WellFormed) (expr : Expr)
    : (store.record expr).WellFormed where
  ordered := ⟨wellFormed.ordered.collections, wellFormed.ordered.indexes⟩
  collections := wellFormed.collections
  indexes := wellFormed.indexes
  sources := wellFormed.sources
  clock := wellFormed.clock

/-- Carrying out an operation with a new name and an existing source keeps a store well-formed:
one entry is added, and no source is lost.
-/
theorem WellFormed.carryOut {store : MemoryStore} (wellFormed : store.WellFormed)
    {operation : Operation} (new : ¬store.Holds operation.target)
    (source : store.HoldsSource operation)
    : (store.carryOut operation).WellFormed := by
  cases operation with
  | createCollection creation =>
      exact {
        ordered := wellFormed.ordered.carryOut _
        collections := wellFormed.collections.insert creation
        indexes := wellFormed.indexes
        sources := by
          intro name index found
          apply (Entries.contains_insert _ _ _ _).mpr
          exact Or.inr (wellFormed.sources name index found)
        clock := by
          have size := Entries.length_insert new creation
          have clock := wellFormed.clock
          simp only [MemoryStore.carryOut, size]
          omega
      }
  | createIndex creation =>
      exact {
        ordered := wellFormed.ordered.carryOut _
        collections := wellFormed.collections
        indexes := wellFormed.indexes.insert creation
        sources := by
          intro name index found
          rw [MemoryStore.carryOut, Entries.find?_insert] at found
          -- The new index is on an existing source, and the others still have theirs.
          split at found
          case isTrue => exact Option.some.inj found ▸ source
          case isFalse => exact wellFormed.sources name index found
        clock := by
          have size := Entries.length_insert new creation
          have clock := wellFormed.clock
          simp only [MemoryStore.carryOut, size]
          omega
      }

/-- A later store has what a store has, unchanged. -/
structure Within (store later : MemoryStore) : Prop where
  collections : store.collections.Within later.collections
  indexes : store.indexes.Within later.indexes

theorem Within.refl (store : MemoryStore) : store.Within store :=
  ⟨fun _ _ found => found, fun _ _ found => found⟩

theorem Within.trans {store middle later : MemoryStore} (first : store.Within middle)
    (second : middle.Within later)
    : store.Within later where
  collections name creation found :=
    second.collections name creation (first.collections name creation found)
  indexes name creation found := second.indexes name creation (first.indexes name creation found)

/-- Carrying out an operation with a new name changes nothing that a store has. -/
theorem within_carryOut {store : MemoryStore} {operation : Operation}
    (new : ¬store.Holds operation.target)
    : store.Within (store.carryOut operation) := by
  cases operation with
  | createCollection creation =>
      exact ⟨Entries.within_insert new creation, fun _ _ found => found⟩
  | createIndex creation =>
      exact ⟨fun _ _ found => found, Entries.within_insert new creation⟩

/-- Executing an expression changes nothing that a store has. -/
theorem within_execute (expr : Expr) (store : MemoryStore)
    : store.Within (database.execute expr store).2 := by
  have recorded : store.Within (store.record expr) :=
    ⟨fun _ _ found => found, fun _ _ found => found⟩
  rcases execute_cases expr store with ⟨operation, _, new, _, executed⟩ | ⟨error, executed⟩
  · rw [executed]
    exact recorded.trans (within_carryOut new)
  · rw [executed]
    exact recorded

-----------------------------------------------------------------------------------------
-- Sessions
-----------------------------------------------------------------------------------------

/-- The time that a response carries. -/
def time? : Expr → Option Int
  | .object entries =>
    match Entries.find? "ts" entries with
    | some (.int time) => some time.toInt
    | _ => none
  | _ => none

/-- An operation is acknowledged with the time that the clock shows next, as long as a word can
hold it.
-/
theorem time?_acknowledgement {store : MemoryStore} (small : store.clock + 1 < 2 ^ 63)
    (operation : Operation)
    : time? (store.acknowledgement operation) = some ((store.clock : Int) + 1) := by
  have time : (Int64.ofNat (store.clock + 1)).toInt = ↑(store.clock + 1) :=
    Int64.toInt_ofNat_of_lt small
  exact congrArg some time

/-- A call on a store. -/
inductive Call
  | execute (expr : Expr)
  | purge

/-- A store in use, with what was submitted since it was last purged. -/
structure Session where
  store : MemoryStore := empty
  log : List Submission := []

namespace Session

/-- Answers a call. A purge ends what was submitted so far. -/
def call (session : Session) : Call → Session
  | .execute expr =>
    let (answer, store) := database.execute expr session.store
    { store, log := session.log ++ [⟨expr, answer⟩] }
  | .purge => { store := session.store.purge }

/-- Answers one call after another. -/
def after (session : Session) (calls : List Call) : Session :=
  calls.foldl call session

/-- The responses to successful submissions since the last purge, in order. -/
def responses (session : Session) : List Expr :=
  session.log.filterMap fun submission => submission.answer.toOption

/-- The store is well-formed and has recorded what was submitted. It counts the successful
submissions, each of which was answered with its number, and an empty store gives the same
answers to what it has recorded and ends in the same state.
-/
structure Consistent (session : Session) : Prop where
  wellFormed : session.store.WellFormed
  submitted : session.store.submitted = session.log.map Submission.expr
  clock : session.store.clock = session.responses.length
  timed
    : ∀ (place : Nat) (response : Expr),
        session.responses[place]? = some response
        → place + 1 < 2 ^ 63
        → time? response = some ((place : Int) + 1)
  replayed
    : database.submissions session.store.submitted empty = (session.log, session.store)

theorem consistent_start : Consistent {} where
  wellFormed := wellFormed_empty
  submitted := rfl
  clock := rfl
  timed := fun _ _ given => nomatch given
  replayed := rfl

variable {session : Session}

theorem call_execute {expr : Expr} {answer : Except Error Expr} {next : MemoryStore}
    (executed : database.execute expr session.store = (answer, next))
    : session.call (.execute expr) = ⟨next, session.log ++ [⟨expr, answer⟩]⟩ := by
  rw [call, executed]

/-- A submission is recorded, and replaying it after all others has the same effect. -/
theorem Consistent.replay_execute (consistent : session.Consistent) {expr : Expr}
    {answer : Except Error Expr} {next : MemoryStore}
    (executed : database.execute expr session.store = (answer, next))
    : let log := session.log ++ [Submission.mk expr answer]
      next.submitted = log.map Submission.expr
      ∧ database.submissions next.submitted empty = (log, next) := by
  intro log
  have recorded : next.submitted = session.store.submitted ++ [expr] := by
    have recorded := execute_submitted expr session.store
    rwa [executed] at recorded
  refine ⟨?_, ?_⟩
  · rw [recorded, consistent.submitted, List.map_append, List.map_singleton]
  · rw [recorded]
    exact Database.submissions_concat consistent.replayed executed

/-- The response to an operation that is carried out carries its number among all responses. -/
theorem Consistent.timed_concat (consistent : session.Consistent) (operation : Operation)
    {place : Nat} {response : Expr}
    (given
      : (session.responses ++ [session.store.acknowledgement operation])[place]? = some response)
    (small : place + 1 < 2 ^ 63)
    : time? response = some ((place : Int) + 1) := by
  rcases Nat.lt_trichotomy place session.responses.length with earlier | rfl | beyond
  · rw [List.getElem?_append_left earlier] at given
    exact consistent.timed place response given small
  · rw [List.getElem?_concat_length] at given
    obtain rfl := Option.some.inj given
    -- Before the last response the clock has counted exactly the earlier ones.
    rw [← consistent.clock] at small ⊢
    exact time?_acknowledgement small operation
  · rw [List.getElem?_eq_none (by simpa using Nat.succ_le_of_lt beyond)] at given
    nomatch given

/-- An operation that is carried out keeps a session consistent. -/
theorem Consistent.accept (consistent : session.Consistent) {expr : Expr}
    {operation : Operation} (new : ¬session.store.Holds operation.target)
    (source : session.store.HoldsSource operation)
    (executed
      : database.execute expr session.store
        = (.ok (session.store.acknowledgement operation),
            (session.store.record expr).carryOut operation))
    : (session.call (.execute expr)).Consistent := by
  obtain ⟨submitted, replayed⟩ := consistent.replay_execute executed
  have responses : (session.call (.execute expr)).responses
      = session.responses ++ [session.store.acknowledgement operation] := by
    simp [call_execute executed, Session.responses, Except.toOption]
  have clock : ((session.store.record expr).carryOut operation).clock
      = session.store.clock + 1 := by
    cases operation <;> rfl
  rw [call_execute executed] at responses ⊢
  exact {
    wellFormed := (consistent.wellFormed.record expr).carryOut new source
    submitted
    clock := by rw [responses, List.length_append, clock, consistent.clock, List.length_singleton]
    timed := by
      rw [responses]
      exact fun place response => consistent.timed_concat operation
    replayed
  }

/-- A rejected expression keeps a session consistent. -/
theorem Consistent.reject (consistent : session.Consistent) {expr : Expr} {error : Error}
    (executed : database.execute expr session.store = (.error error, session.store.record expr))
    : (session.call (.execute expr)).Consistent := by
  obtain ⟨submitted, replayed⟩ := consistent.replay_execute executed
  have responses : (session.call (.execute expr)).responses = session.responses := by
    simp [call_execute executed, Session.responses, Except.toOption]
  rw [call_execute executed] at responses ⊢
  exact {
    wellFormed := consistent.wellFormed.record expr
    submitted
    clock := by rw [responses]; exact consistent.clock
    timed := by rw [responses]; exact consistent.timed
    replayed
  }

/-- Every call keeps a session consistent: what is executed is carried out or rejected, and a
purge begins anew.
-/
theorem Consistent.call (consistent : session.Consistent) (call : Call)
    : (session.call call).Consistent := by
  cases call with
  | execute expr =>
      rcases execute_cases expr session.store with
        ⟨operation, _, new, source, executed⟩ | ⟨error, executed⟩
      · exact consistent.accept new source executed
      · exact consistent.reject executed
  | purge => exact consistent_start

/-- Calls keep a session consistent, by induction on the calls. -/
theorem Consistent.after (consistent : session.Consistent) (calls : List Call)
    : (session.after calls).Consistent := by
  induction calls generalizing session with
  | nil => exact consistent
  | cons call rest ih => exact ih (consistent.call call)

/-- What a store has stays as long as it is not purged, by induction on the executed
expressions.
-/
theorem within_after (session : Session) (exprs : List Expr)
    : session.store.Within (session.after (exprs.map .execute)).store := by
  induction exprs generalizing session with
  | nil => exact .refl session.store
  | cons expr rest ih =>
      exact (within_execute expr session.store).trans (ih (session.call (.execute expr)))

/-- After any calls, a session that began with an empty store is consistent, a rejected
expression will only be recorded, and what is stored will stay until the next purge.
-/
theorem after_consistent (calls : List Call)
    : let session := after {} calls
      session.Consistent
      ∧ (∀ expr error,
          (database.execute expr session.store).1 = .error error
          → (database.execute expr session.store).2 = session.store.record expr)
      ∧ ∀ exprs : List Expr,
          session.store.Within (session.after (exprs.map .execute)).store := by
  intro session
  exact ⟨consistent_start.after calls, fun expr error => execute_rejected,
    within_after session⟩

end Session

end MemoryStore

end Catalog
