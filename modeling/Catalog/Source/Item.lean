import Catalog.Source.Form
import Catalog.Source.Reading

/-! Items of source code, as far as annotations need them: their attributes and the members of
structs with their attributes.
-/

namespace Catalog.Source

/-- An attribute of an item or of a field. -/
structure Attribute where
  /-- Its name, if it has a plain one. -/
  name? : Option String
  /-- What follows its name. -/
  tokens : List Token
  deriving DecidableEq, Repr

/-- A field of a struct. -/
structure Member where
  attributes : List Attribute
  word : Word
  deriving DecidableEq, Repr

/-- What an item consists of. -/
inductive Body
  | named (members : List Member)
  | tuple
  | unit
  /-- The item is not a struct. -/
  | other
  deriving DecidableEq, Repr

/-- An item. -/
structure Item where
  attributes : List Attribute
  word : Word
  body : Body
  deriving DecidableEq, Repr

/-- A path, by the tokens it is written with. -/
structure Path where
  tokens : List Token
  deriving DecidableEq, Repr

/-- The attributes of a name among others. -/
def attributesNamed (name : String) (attributes : List Attribute) : List Attribute :=
  attributes.filter (·.name? = some name)

/-- Whether a word may stand in a path. -/
def isPathWord (word : Word) : Bool :=
  word.isName || ["super", "self", "Self", "crate"].contains word.name

/-- The tokens after a path without arguments. -/
def dropPlainPath? : List Token → Option (List Token)
  | .word word :: .mark ':' true :: .mark ':' _ :: rest =>
    if isPathWord word then dropPlainPath? rest else none
  | .word word :: rest => if isPathWord word then some rest else none
  | _ => none

/-- The tokens after the arguments of a path, if there are any. -/
def dropArguments? (tokens : List Token) : Option (List Token) :=
  match tokens, afterColons? tokens with
  | .mark '<' _ :: rest, _ =>
    if startsWithPair '<' '=' tokens then some tokens else skip [.arguments] rest
  | _, some (.mark '<' _ :: rest) => skip [.arguments] rest
  | tokens, _ => some tokens

/-- Reads the segments of a path and returns the name of the last one. -/
def readSegments? (tokens : List Token) : Option (String × List Token) :=
  match tokens with
  | .word word :: rest =>
    if isPathWord word then do
      let after ←
        if word.isName || word.name = "Self" then dropArguments? rest else some rest
      match afterColons? after with
      | none | some (.opening .round :: _) => return (word.name, after)
      | some next => if next.length ≤ rest.length then readSegments? next else none
    else none
  | _ => none
termination_by tokens.length

/-- Reads a path. -/
def readPath? (tokens : List Token) : Option (Path × List Token) := do
  let (_, rest) ← readSegments? ((afterColons? tokens).getD tokens)
  return (⟨tokens.take (tokens.length - rest.length)⟩, rest)

/-- The name that a path ends with. -/
def Path.lastName (path : Path) : String :=
  ((readSegments? ((afterColons? path.tokens).getD path.tokens)).map Prod.fst).getD ""

/-- The attribute that stands in square brackets. -/
def Attribute.ofTokens? (tokens : List Token) : Option Attribute := do
  let rest ← dropPlainPath? ((afterColons? tokens).getD tokens)
  let name? :=
    match tokens with
    | .word ⟨name, false⟩ :: after => if after.length = rest.length then some name else none
    | _ => none
  return ⟨name?, rest⟩

/-- Reads the attributes before an item or a field. -/
def readAttributes (tokens : List Token) : Option (List Attribute × List Token) :=
  match tokens with
  | .mark '#' _ :: .opening .square :: rest => do
    let (inside, after) ← splitClosing 0 rest
    let first ← Attribute.ofTokens? inside
    if after.length ≤ rest.length then
      let (more, after) ← readAttributes after
      return (first :: more, after)
    else none
  | .mark '#' _ :: _ => none
  | tokens => some ([], tokens)
termination_by tokens.length

/-- Reads the fields between curly brackets. -/
def readMembers (tokens : List Token) : Option (List Member) :=
  if tokens.isEmpty then some []
  else do
    let (attributes, rest) ← readAttributes tokens
    match ← skip [.visibility] rest with
    | .word word :: rest =>
      let rest ← skip [.fieldName, .mark ':', .type true] (.word word :: rest)
      match rest with
      | [] => return [⟨attributes, word⟩]
      | .mark ',' _ :: rest =>
        if rest.length < tokens.length then
          return ⟨attributes, word⟩ :: (← readMembers rest)
        else none
      | _ => none
    | _ => none
termination_by tokens.length

/-- Reads the body of a struct, which is the last part of its item. -/
def readStruct? (tokens : List Token) : Option Body :=
  match tokens with
  | .opening .round :: rest =>
    match skip [.tupleFields, .optionalConditions, .mark ';'] rest with
    | some [] => some .tuple
    | _ => none
  | tokens => do
    match ← skip [.optionalConditions] tokens with
    | [.mark ';' _] => return .unit
    | .opening .curly :: rest =>
      match ← splitClosing 0 rest with
      | (inside, []) => return .named (← readMembers inside)
      | _ => none
    | _ => none

/-- Reads the body of an item that is not a struct. -/
def readOther? (parts : Form) (tokens : List Token) : Option Body := do
  match ← skip [.optionalConditions] tokens with
  | .opening .curly :: rest => if (← skip [parts] rest).isEmpty then return .other else none
  | _ => none

/-- The item that the tokens form. -/
def Item.ofTokens? (tokens : List Token) : Option Item := do
  let (attributes, rest) ← readAttributes tokens
  match ← skip [.visibility] rest with
  | .word ⟨kind, false⟩ :: .word word :: rest =>
    let rest ← skip [.name, .optionalGenerics] (.word word :: rest)
    let body ←
      match kind with
      | "struct" => readStruct? rest
      | "enum" => readOther? .variants rest
      | "union" => readOther? .namedFields rest
      | _ => none
    return ⟨attributes, word, body⟩
  | _ => none

/-- The item that a text holds. -/
def Item.parse? (text : String) : Option Item := do
  Item.ofTokens? (← tokens? text)

end Catalog.Source
