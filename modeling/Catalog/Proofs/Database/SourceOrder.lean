import Catalog.Proofs.Compilation.Blocks
import Catalog.Proofs.Database.Schedule

/-! An index is scheduled after the collection that it is built on.
The collection of a type is the first of the type's compilations, and the type's indexes take
their source from it.
-/

namespace Catalog

open Outcome

/-- Every index that is scheduled has its source among the known collections or those that are
scheduled before it. What follows a failed compilation is never executed.
-/
def SourcesKnown (known : List String) : List Scheduled → Prop
  | [] => True
  | ⟨_, .error _⟩ :: _ => True
  | ⟨_, .ok (.createCollection creation)⟩ :: rest => SourcesKnown (creation.name :: known) rest
  | ⟨_, .ok (.createIndex creation)⟩ :: rest =>
    creation.source ∈ known ∧ SourcesKnown known rest

/-- The sources of a type's indexes are known once its collection is, by induction on the
indexes; `rest` is what is scheduled after the type.
-/
theorem sourcesKnown_indexes {type : TypeDeclaration} {rest : List Scheduled}
    {known : List String} (source : type.collection.name ∈ known)
    (later : SourcesKnown known rest) (indexes : List IndexDeclaration)
    : SourcesKnown known
        ((indexes.map fun index => ⟨type.typeName, (type.compileIndex index).map .createIndex⟩)
          ++ rest) := by
  induction indexes with
  | nil => exact later
  | cons index others ih =>
      rw [List.map_cons, List.cons_append]
      cases compiled : type.compileIndex index with
      | error error => trivial
      | ok creation =>
          have same := (TypeDeclaration.compileIndex_eq_ok.mp compiled).source
          exact ⟨same ▸ source, ih⟩

/-- The sources of all indexes of a pass are known in time, by induction on its types. -/
theorem PassOptions.schedule_sourcesKnown (options : PassOptions) (types : List TypeDeclaration)
    (known : List String)
    : SourcesKnown known (options.schedule types) := by
  induction types generalizing known with
  | nil => trivial
  | cons type rest ih =>
      rw [schedule, List.flatMap_cons, ← schedule]
      by_cases skipped : options.skips type = true
      · rw [if_pos skipped]
        exact ih known
      · rw [if_neg skipped, List.cons_append]
        cases compiled : type.compileCollection with
        | error error => trivial
        | ok creation =>
            have same := (TypeDeclaration.compileCollection_eq_ok.mp compiled).named
            have source : type.collection.name ∈ creation.name :: known :=
              List.mem_cons.mpr (Or.inl same.symm)
            exact sourcesKnown_indexes source (ih _) type.indexes

end Catalog
