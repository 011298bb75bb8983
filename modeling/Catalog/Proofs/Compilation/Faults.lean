import Catalog.Compilation
import Catalog.Proofs.Declaration.Acceptance

/-! What can be wrong with a declaration when it is compiled.
A compilation fails at a name that is refused or at a member that is not declared, and at
nothing else.
-/

namespace Catalog

open Outcome

/-- An error that a declaration itself contains. -/
def Error.InDeclaration : Error → Prop
  | .invalidName _ _ _ | .unresolvableField _ _ => True
  | _ => False

/-- A declaration contains the names that are refused. -/
theorem Error.OfName.inDeclaration {error : Error} (refused : error.OfName)
    : error.InDeclaration := by
  cases error with
  | invalidName _ _ _ => trivial
  | _ => exact refused.elim

theorem checkName_fails (kind : NameKind) (name : String)
    : FailsOnly Error.InDeclaration (checkName kind name) :=
  (checkName_refuses kind name).mono fun _ => Error.OfName.inDeclaration

namespace TypeDeclaration

variable (type : TypeDeclaration)

/-- Requiring a field fails only for the member. -/
theorem requireField_fails (member : String)
    : FailsOnly Error.InDeclaration (type.requireField member) := by
  unfold requireField
  split
  · exact .ok _
  · exact .error trivial

/-- Compiling a collection fails only for its name. -/
theorem compileCollection_fails : FailsOnly Error.InDeclaration type.compileCollection :=
  (checkName_fails .collection type.collection.name).bind fun _ => .ok _

/-- Compiling an element fails only for the member that it refers to. -/
theorem compileElement_fails (element : Element)
    : FailsOnly Error.InDeclaration (type.compileElement element) := by
  cases element with
  | field member => exact ((type.requireField_fails member).map _).bind fun _ => .ok _
  | selfReference => exact .ok _
  | timestamp => exact .ok _

/-- Compiling a value fails only as its element does. -/
theorem compileValue_fails (value : SortedElement)
    : FailsOnly Error.InDeclaration (type.compileValue value) :=
  (type.compileElement_fails value.element).bind fun _ => .ok _

/-- Naming an index fails only for a given name. -/
theorem compileIndexName_fails (index : IndexDeclaration)
    : FailsOnly Error.InDeclaration (type.compileIndexName index) := by
  unfold compileIndexName
  split
  · exact (checkName_fails .index _).bind fun _ => .ok _
  · exact .ok _

/-- Compiling an index fails only for its name, its terms or its values. -/
theorem compileIndex_fails (index : IndexDeclaration)
    : FailsOnly Error.InDeclaration (type.compileIndex index) :=
  (type.compileIndexName_fails index).bind fun _ =>
    (FailsOnly.mapM fun element _ => type.compileElement_fails element).bind fun _ =>
      (FailsOnly.mapM fun value _ => type.compileValue_fails value).bind fun _ => .ok _

/-- Every compilation of a type fails only for the type's declaration. -/
theorem compilations_fail {compilation : Except Error Operation}
    (member : compilation ∈ type.compilations)
    : FailsOnly Error.InDeclaration compilation := by
  rcases List.mem_cons.mp member with rfl | later
  · exact type.compileCollection_fails.map _
  · obtain ⟨index, _, rfl⟩ := List.mem_map.mp later
    exact (type.compileIndex_fails index).map _

end TypeDeclaration

end Catalog
