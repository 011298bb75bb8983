/-! The tokens of YAML texts. -/

namespace Catalog.Yaml

/-- How a scalar is written. -/
inductive Style
  | plain
  | singleQuoted
  | doubleQuoted
  | literal
  | folded
  deriving DecidableEq, Repr

/-- A token. -/
inductive Token
  | streamEnd
  | documentStart
  | documentEnd
  | version (major minor : Nat)
  /-- What a handle of tags stands for. -/
  | handle (handle expansion : String)
  | blockSequenceStart
  | blockMappingStart
  | blockEnd
  | flowSequenceStart
  | flowSequenceEnd
  | flowMappingStart
  | flowMappingEnd
  /-- The dash before an item. -/
  | dash
  | comma
  | key
  | value
  | aliasOf (name : String)
  | anchor (name : String)
  | tag (handle suffix : String)
  | scalar (text : String) (style : Style)
  deriving DecidableEq, Repr

/-- Numbers the anchors: the number of different names before an anchor becomes its name, and an
alias refers to the last anchor of its old name. The tokens end at an alias without an anchor.
-/
def Token.number (known : List (String × String)) : List Token → List Token
  | [] => []
  | .anchor name :: rest =>
    let number := toString known.length
    let others := known.filter (·.1 ≠ name)
    .anchor number :: Token.number ((name, number) :: others) rest
  | .aliasOf name :: rest =>
    match known.lookup name with
    | some number => .aliasOf number :: Token.number known rest
    | none => []
  | token :: rest => token :: Token.number known rest

end Catalog.Yaml
