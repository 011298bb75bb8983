import Catalog.Annotated.Fault
import Catalog.Declaration.Collection
import Catalog.Source.Item

/-! The settings that attributes consist of, and how they are written.
A setting is a key, mostly with a value after an equals sign. Settings stand in parentheses with
commas between them; a comma may follow the last one.
-/

namespace Catalog.Annotated

open Source (Token Word)

/-- A setting of the collection attribute. -/
inductive CollectionSetting
  | name (text : String)
  | ttlDays (days : Days)
  | historyDays (days : Days)
  | noHistory
  /-- The text of a JSON object. -/
  | data (text : String)
  | permissions (text : String)
  /-- The path of the type that this one derives from. -/
  | base (path : Source.Path)
  /-- The name of a rule for the names of fields. -/
  | renameAll (rule : String)
  deriving DecidableEq, Repr

/-- A setting of the index attribute. -/
inductive IndexSetting
  | name (text : String)
  | terms (elements : List Word)
  | values (elements : List Word)
  | unique (value : Bool)
  | serialized (value : Bool)
  | data (text : String)
  | permissions (text : String)
  deriving DecidableEq, Repr

/-- A setting of the field attribute. -/
inductive FieldSetting
  | name (text : String)
  | skip
  deriving DecidableEq, Repr

/-- Reads a part of an attribute and returns the tokens after it. -/
abbrev Reader (α : Type) := List Token → Except Fault (α × List Token)

/-- Reads a text after an equals sign. -/
def readText : Reader String
  | .mark '=' _ :: .text value :: rest => .ok (value, rest)
  | _ => .error .unexpected

/-- Reads a number of days after an equals sign. -/
def readDays : Reader Days
  | .mark '=' _ :: .integer value :: rest =>
    match Number.uint32? value with
    | some days => .ok (days, rest)
    | none => .error .unexpected
  | _ => .error .unexpected

/-- Reads a truth value after an equals sign; without one the key alone means that it holds. -/
def readFlag : Reader Bool
  | .mark '=' _ :: .word ⟨"true", false⟩ :: rest => .ok (true, rest)
  | .mark '=' _ :: .word ⟨"false", false⟩ :: rest => .ok (false, rest)
  | .mark '=' _ :: _ => .error .unexpected
  | rest => .ok (true, rest)

/-- Reads a path after an equals sign. -/
def readPath : Reader Source.Path
  | .mark '=' _ :: rest =>
    match Source.readPath? rest with
    | some outcome => .ok outcome
    | none => .error .unexpected
  | _ => .error .unexpected

/-- Reads names up to a closing bracket. -/
def readNames : Reader (List Word)
  | .closing .square :: rest => .ok ([], rest)
  | .word word :: .closing .square :: rest =>
    if word.isName then .ok ([word], rest) else .error .unexpected
  | .word word :: .mark ',' _ :: rest =>
    if word.isName then do
      let (words, rest) ← readNames rest
      return (word :: words, rest)
    else .error .unexpected
  | _ => .error .unexpected

/-- Reads a list of names after an equals sign. -/
def readElements : Reader (List Word)
  | .mark '=' _ :: .opening .square :: rest => readNames rest
  | _ => .error .unexpected

/-- Makes a setting of the value that is read. -/
def Reader.setting {α β : Type} (reader : Reader α) (make : α → β) : Reader β := fun tokens => do
  let (value, rest) ← reader tokens
  return (make value, rest)

/-- Reads the name that a setting starts with, and goes on as that name says. -/
def readKeyed {α : Type} (kind : AttributeKind) (value? : String → Option (Reader α)) : Reader α
  | .word word :: rest =>
    if !word.isName then .error .unexpected
    else match (if word.raw then none else value? word.name) with
    | some reader => reader rest
    | none => .error (.unknownKey kind)
  | _ => .error .unexpected

/-- How the value of a key of the collection attribute is read. -/
def CollectionSetting.reader? : String → Option (Reader CollectionSetting)
  | "name" => some (readText.setting .name)
  | "ttl_days" => some (readDays.setting .ttlDays)
  | "history_days" => some (readDays.setting .historyDays)
  | "no_history" => some fun rest => .ok (.noHistory, rest)
  | "data" => some (readText.setting .data)
  | "permissions" => some (readText.setting .permissions)
  | "extends" => some (readPath.setting .base)
  | "rename_all" => some (readText.setting .renameAll)
  | _ => none

/-- How the value of a key of the index attribute is read. -/
def IndexSetting.reader? : String → Option (Reader IndexSetting)
  | "name" => some (readText.setting .name)
  | "terms" => some (readElements.setting .terms)
  | "values" => some (readElements.setting .values)
  | "unique" => some (readFlag.setting .unique)
  | "serialized" => some (readFlag.setting .serialized)
  | "data" => some (readText.setting .data)
  | "permissions" => some (readText.setting .permissions)
  | _ => none

/-- How the value of a key of the field attribute is read. -/
def FieldSetting.reader? : String → Option (Reader FieldSetting)
  | "name" => some (readText.setting .name)
  | "skip" => some fun rest => .ok (.skip, rest)
  | _ => none

/-- Reads a setting of the collection attribute. -/
def CollectionSetting.read : Reader CollectionSetting :=
  readKeyed .collection reader?

/-- Reads a setting of the index attribute. -/
def IndexSetting.read : Reader IndexSetting :=
  readKeyed .index reader?

/-- Reads a setting of the field attribute. -/
def FieldSetting.read : Reader FieldSetting :=
  readKeyed .field reader?

/-- Reads settings up to the end, and adds each one before it reads the next, so that the first
fault is the one that stands first.
-/
def addSettings {α β : Type} (read : Reader β) (add : α → β → Except Fault α) (so_far : α)
    (tokens : List Token) : Except Fault α :=
  match tokens with
  | [] => .ok so_far
  | token :: following => do
    let (setting, rest) ← read (token :: following)
    let so_far ← add so_far setting
    match rest with
    | [] => return so_far
    | .mark ',' _ :: rest =>
      if rest.length ≤ following.length then addSettings read add so_far rest
      else throw .unexpected
    | _ => throw .unexpected
termination_by tokens.length

/-- Reads what stands in parentheses, which nothing may follow. -/
def inParentheses {α : Type} (read : List Token → Except Fault α)
    (tokens : List Token) : Except Fault α :=
  match tokens with
  | .opening .round :: rest =>
    match Source.splitClosing 0 rest with
    | some (inside, after) => do
      let value ← read inside
      if after.isEmpty then return value else throw .unexpected
    | none => .error .unexpected
  | _ => .error .unexpected

end Catalog.Annotated
