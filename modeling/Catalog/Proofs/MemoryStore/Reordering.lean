import Catalog.Proofs.Database.PassTrace
import Catalog.Proofs.MemoryStore.Admission

/-! Submissions in another order.
An operation is refused for its name or for its source. Whether the names of operations are new
and distinct does not depend on their order, so only the places of the sources decide which
orders succeed, and what is stored in the end depends on the operations alone.
-/

namespace Catalog

open Outcome

namespace MemoryStore

/-- Every expression is answered with a response when they are submitted one after another. -/
def Accepts (store : MemoryStore) (exprs : List Expr) : Prop :=
  ∀ submission ∈ (database.submissions exprs store).1,
    ∃ response, submission.answer = .ok response

/-- Every index is created on a collection that is created before it or that the store has. -/
def Sourced (store : MemoryStore) (operations : List Operation) : Prop :=
  ∀ before creation after,
    operations = before ++ .createIndex creation :: after
    → .collection creation.source ∈ before.map Operation.target
      ∨ store.Holds (.collection creation.source)

-----------------------------------------------------------------------------------------
-- One operation at a time
-----------------------------------------------------------------------------------------

theorem admits_record {store : MemoryStore} {expr : Expr} {operations : List Operation}
    : (store.record expr).Admits operations ↔ store.Admits operations :=
  ⟨fun admitted => ⟨admitted.collections, admitted.indexes⟩,
    fun admitted => ⟨admitted.collections, admitted.indexes⟩⟩

theorem sourced_nil (store : MemoryStore) : store.Sourced [] := by
  simp [Sourced]

/-- The source of the first operation has to exist, and what the first one creates is there for
the others.
-/
theorem sourced_cons {store : MemoryStore} {operation : Operation} {rest : List Operation}
    : store.Sourced (operation :: rest)
      ↔ store.HoldsSource operation ∧ (store.carryOut operation).Sourced rest := by
  constructor
  · intro sourced
    constructor
    · cases operation with
      | createCollection creation => trivial
      | createIndex creation =>
          rcases sourced [] creation rest rfl with impossible | held
          · nomatch impossible
          · exact held
    · intro before creation after split
      rw [holds_carryOut]
      have earlier := sourced (operation :: before) creation after (congrArg _ split)
      rw [List.map_cons, List.mem_cons] at earlier
      rcases earlier with (first | earlier) | held
      · exact Or.inr (Or.inl first)
      · exact Or.inl earlier
      · exact Or.inr (Or.inr held)
  · intro sourced before creation after split
    obtain ⟨source, later⟩ := sourced
    cases before with
    | nil =>
        obtain ⟨same, _⟩ := List.cons.inj split
        subst same
        exact Or.inr source
    | cons first before =>
        obtain ⟨same, tail⟩ := List.cons.inj split
        subst same
        rw [List.map_cons, List.mem_cons]
        have earlier := later before creation after tail
        rw [holds_carryOut] at earlier
        rcases earlier with earlier | first | held
        · exact Or.inl (Or.inr earlier)
        · exact Or.inl (Or.inl first)
        · exact Or.inr held

-----------------------------------------------------------------------------------------
-- Accepted submissions
-----------------------------------------------------------------------------------------

theorem accepts_cons {store next : MemoryStore} {expr : Expr} {answer : Except Error Expr}
    (executed : database.execute expr store = (answer, next)) (rest : List Expr)
    : store.Accepts (expr :: rest) ↔ (∃ response, answer = .ok response) ∧ next.Accepts rest := by
  rw [Accepts, Database.submissions_cons executed rfl, List.forall_mem_cons]
  rfl

/-- What is accepted reads as operations whose names are new and distinct and whose sources are
there in time, by induction on the expressions.
-/
theorem Accepts.operations {store : MemoryStore} {exprs : List Expr}
    (accepted : store.Accepts exprs)
    : ∃ operations,
        exprs.map Operation.ofExpr = operations.map .ok
        ∧ store.Admits operations
        ∧ store.Sourced operations := by
  induction exprs generalizing store with
  | nil => exact ⟨[], rfl, store.admits_nil, store.sourced_nil⟩
  | cons expr rest ih =>
      rcases execute_cases expr store with
        ⟨operation, read, new, source, executed⟩ | ⟨error, executed⟩
      · rw [carryOut_record] at executed
        obtain ⟨_, later⟩ := (accepts_cons executed rest).mp accepted
        obtain ⟨operations, reads, admitted, sourced⟩ := ih later
        refine ⟨operation :: operations, ?_, ?_, ?_⟩
        · rw [List.map_cons, List.map_cons, read, reads]
        · rw [admits_cons, carryOut_record, admits_record]
          exact ⟨new, admits_record.mp admitted⟩
        · exact sourced_cons.mpr ⟨source, sourced⟩
      · obtain ⟨⟨response, impossible⟩, _⟩ := (accepts_cons executed rest).mp accepted
        nomatch impossible

/-- Expressions that read as such operations are accepted and carried out, by induction on the
operations. What is recorded are the expressions as they were written.
-/
theorem submissions_of_sourced {store : MemoryStore} {exprs : List Expr}
    {operations : List Operation} (reads : exprs.map Operation.ofExpr = operations.map .ok)
    (admitted : store.Admits operations) (sourced : store.Sourced operations)
    : store.Accepts exprs
      ∧ (database.submissions exprs store).2
        = { store.carryOutAll operations with submitted := store.submitted ++ exprs } := by
  induction operations generalizing store exprs with
  | nil =>
      obtain rfl := List.map_eq_nil_iff.mp reads
      exact ⟨by simp [Accepts, Database.submissions], by simp [carryOutAll, Database.submissions]⟩
  | cons operation operations ih =>
      obtain ⟨expr, rest, rfl, read, reads⟩ := List.map_eq_cons_iff.mp reads
      obtain ⟨new, admitted⟩ := admits_cons.mp admitted
      obtain ⟨source, sourced⟩ := sourced_cons.mp sourced
      rw [carryOut_record, admits_record] at admitted
      have executed := execute_of_read read new source
      rw [carryOut_record] at executed
      have recorded : ((store.carryOut operation).record expr).Admits operations :=
        admits_record.mpr admitted
      obtain ⟨accepted, final⟩ := ih reads recorded sourced
      refine ⟨(accepts_cons executed rest).mpr ⟨⟨_, rfl⟩, accepted⟩, ?_⟩
      -- Both sides carry the same out but record the first operation at another time.
      have unrecorded : (store.carryOut operation).submitted = store.submitted := by
        cases operation <;> rfl
      rw [Database.submissions_cons executed rfl, final, carryOutAll_cons, carryOut_record,
        carryOutAll_record, carryOutAll_record]
      simp [record, unrecorded]

-----------------------------------------------------------------------------------------
-- Other orders
-----------------------------------------------------------------------------------------

/-- Every expression that creates an index comes after one that creates its source. -/
def SourcesFirst (exprs : List Expr) : Prop :=
  ∀ before expr after creation,
    exprs = before ++ expr :: after
    → Operation.ofExpr expr = .ok (.createIndex creation)
    → ∃ earlier ∈ before,
        ∃ collection,
          Operation.ofExpr earlier = .ok (.createCollection collection)
          ∧ collection.name = creation.source

theorem mem_operations_iff {exprs : List Expr} {operations : List Operation}
    (reads : exprs.map Operation.ofExpr = operations.map .ok) {operation : Operation}
    : operation ∈ operations ↔ ∃ expr ∈ exprs, Operation.ofExpr expr = .ok operation := by
  rw [← List.mem_map, reads]
  simp

/-- On an empty store the sources of operations are there in time exactly if they come first. -/
theorem sourcesFirst_iff {exprs : List Expr} {operations : List Operation}
    (reads : exprs.map Operation.ofExpr = operations.map .ok)
    : SourcesFirst exprs ↔ empty.Sourced operations := by
  constructor
  · intro first before creation after split
    rw [split, List.map_append, List.map_cons] at reads
    obtain ⟨earlierExprs, laterExprs, rfl, earlierReads, laterReads⟩ :=
      List.map_eq_append_iff.mp reads
    obtain ⟨expr, rest, rfl, read, _⟩ := List.map_eq_cons_iff.mp laterReads
    obtain ⟨earlier, listed, collection, earlierRead, source⟩ :=
      first earlierExprs expr rest creation rfl read
    have present : .createCollection collection ∈ before :=
      (mem_operations_iff earlierReads).mpr ⟨earlier, listed, earlierRead⟩
    exact Or.inl (List.mem_map.mpr ⟨_, present, congrArg Target.collection source⟩)
  · intro sourced before expr after creation split read
    rw [split, List.map_append, List.map_cons, read] at reads
    obtain ⟨earlier, later, rfl, earlierReads, laterReads⟩ := List.map_eq_append_iff.mp reads.symm
    obtain ⟨operation, rest, rfl, same, _⟩ := List.map_eq_cons_iff.mp laterReads
    obtain rfl := Except.ok.inj same
    rcases sourced earlier creation rest rfl with target | impossible
    · obtain ⟨operation, present, target⟩ := List.mem_map.mp target
      obtain ⟨expr, listed, read⟩ := (mem_operations_iff earlierReads.symm).mp present
      cases operation with
      | createCollection collection =>
          exact ⟨expr, listed, collection, read, Target.collection.inj target⟩
      | createIndex index => nomatch target
    · nomatch impossible

/-- Operations that all succeed in one order, starting with an empty store, all succeed in another
order exactly if every index still comes after the collection that it is built on. The other
order then leads to the same collections and the same indexes.
-/
theorem accepts_perm {exprs others : List Expr} (accepted : empty.Accepts exprs)
    (same : others.Perm exprs)
    : (empty.Accepts others ↔ SourcesFirst others)
      ∧ (SourcesFirst others
          → (database.submissions others empty).2.collections
              = (database.submissions exprs empty).2.collections
            ∧ (database.submissions others empty).2.indexes
              = (database.submissions exprs empty).2.indexes) := by
  obtain ⟨operations, reads, admitted, sourced⟩ := accepted.operations
  obtain ⟨permuted, otherReads, permutation⟩ := exists_perm_of_map_eq reads same
  have otherAdmitted : empty.Admits permuted := admitted.perm permutation
  have carriedOut (first : SourcesFirst others) :=
    submissions_of_sourced otherReads otherAdmitted ((sourcesFirst_iff otherReads).mp first)
  constructor
  · constructor
    · intro otherAccepted
      obtain ⟨_, found, _, otherSourced⟩ := otherAccepted.operations
      exact (sourcesFirst_iff found).mpr otherSourced
    · intro first
      exact (carriedOut first).1
  · intro first
    have ordered : empty.Ordered := Reachable.empty.ordered
    have stored := admitted.extends_carryOutAll.unique otherAdmitted.extends_carryOutAll permutation
      (ordered.carryOutAll operations) (ordered.carryOutAll permuted)
    rw [(carriedOut first).2, (submissions_of_sourced reads admitted sourced).2]
    exact stored

/-- The collection `companies` may come before `people` and an index on it, but the index may not
come before `people`.
-/
theorem accepts_perm_people
    : let people : Operation := .createCollection { name := "people" }
      let companies : Operation := .createCollection { name := "companies" }
      let index : Operation := .createIndex {
        name := "people_by_name"
        source := "people"
        terms := [.data "name"]
        values := []
        unique := true
        serialized := true
        data? := none
        permissions? := none }
      empty.Accepts ([people, index, companies].map Operation.toExpr)
      ∧ empty.Accepts ([companies, people, index].map Operation.toExpr)
      ∧ ¬empty.Accepts ([index, people, companies].map Operation.toExpr) := by
  intro people companies index
  have reads (operations : List Operation)
      : (operations.map Operation.toExpr).map Operation.ofExpr = operations.map .ok := by
    simp [Operation.ofExpr_toExpr]
  have admitted : empty.Admits [people, index, companies] :=
    ⟨⟨by decide, by decide⟩, ⟨by decide, by decide⟩⟩
  have sourced : empty.Sourced [people, index, companies] :=
    sourced_cons.mpr ⟨trivial, sourced_cons.mpr ⟨rfl, sourced_cons.mpr ⟨trivial, sourced_nil _⟩⟩⟩
  have accepted := (submissions_of_sourced (reads _) admitted sourced).1
  have swapped : [companies, people, index].Perm [people, index, companies] := by decide
  have rotated : [index, people, companies].Perm [people, index, companies] := by decide
  refine ⟨accepted, ?_, ?_⟩
  · apply (accepts_perm accepted (swapped.map _)).1.mpr
    apply (sourcesFirst_iff (reads _)).mpr
    exact sourced_cons.mpr
      ⟨trivial, sourced_cons.mpr ⟨trivial, sourced_cons.mpr ⟨rfl, sourced_nil _⟩⟩⟩
  · intro impossible
    have first := (accepts_perm accepted (rotated.map _)).1.mp impossible
    obtain ⟨_, absent, _⟩ := first [] _ _ _ rfl index.ofExpr_toExpr
    nomatch absent

end MemoryStore

end Catalog
