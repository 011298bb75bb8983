import Catalog.Annotated.RenameRule
import Catalog.Annotated.Setting
import Catalog.Json.Reading

/-! The attributes of annotated structs.
A setting that is repeated replaces the earlier one. Texts of JSON objects are checked where
they stand and are kept as texts.
-/

namespace Catalog.Annotated

open Source (Token Word)

/-- Checks that a text holds a JSON object. -/
def checkObject (text : String) : Except Fault Unit :=
  match Json.parse? text with
  | some (.object _) => .ok ()
  | some value => .error (.notObject value)
  | none => .error .notJson

/-- What the collection attribute says. -/
structure CollectionAttribute where
  /-- The attribute declares a collection, and does not only concern the type. -/
  declared : Bool := false
  name? : Option String := none
  ttlDays? : Option Days := none
  historyDays? : Option Days := none
  noHistory : Bool := false
  data? : Option String := none
  permissions? : Option String := none
  base? : Option Source.Path := none
  renameRule? : Option RenameRule := none
  deriving DecidableEq

namespace CollectionAttribute

/-- Adds a setting. -/
def add (given : CollectionAttribute) : CollectionSetting → Except Fault CollectionAttribute
  | .name text => .ok { given with name? := some text, declared := true }
  | .ttlDays days => .ok { given with ttlDays? := some days, declared := true }
  | .historyDays days => .ok { given with historyDays? := some days, declared := true }
  | .noHistory => .ok { given with noHistory := true, declared := true }
  | .data text => do
    checkObject text
    return { given with data? := some text, declared := true }
  | .permissions text => do
    checkObject text
    return { given with permissions? := some text, declared := true }
  | .base path => .ok { given with base? := some path }
  | .renameAll rule =>
    match RenameRule.ofName? rule with
    | some rule => .ok { given with renameRule? := some rule }
    | none => .error (.unknownRule rule)

/-- Refuses history days together with their absence. -/
def check (given : CollectionAttribute) : Except Fault CollectionAttribute :=
  if given.noHistory ∧ given.historyDays?.isSome then .error .historyConflict else .ok given

/-- The attribute that consists of the settings. Without any it declares a collection. -/
def ofSettings (settings : List CollectionSetting) : Except Fault CollectionAttribute := do
  (← settings.foldlM add { declared := settings.isEmpty }).check

/-- Reads the attribute. It may stand without parentheses. -/
def read (tokens : List Token) : Except Fault CollectionAttribute :=
  if tokens.isEmpty then .ok { declared := true }
  else tokens |> inParentheses fun inside => do
    (← addSettings CollectionSetting.read add { declared := inside.isEmpty } inside).check

end CollectionAttribute

/-- What an index attribute says. -/
structure IndexAttribute where
  name? : Option String := none
  terms : List Word := []
  values : List Word := []
  unique : Bool := false
  serialized? : Option Bool := none
  data? : Option String := none
  permissions? : Option String := none
  deriving DecidableEq

namespace IndexAttribute

/-- Adds a setting. -/
def add (given : IndexAttribute) : IndexSetting → Except Fault IndexAttribute
  | .name text => .ok { given with name? := some text }
  | .terms elements => .ok { given with terms := elements }
  | .values elements => .ok { given with values := elements }
  | .unique value => .ok { given with unique := value }
  | .serialized value => .ok { given with serialized? := some value }
  | .data text => do
    checkObject text
    return { given with data? := some text }
  | .permissions text => do
    checkObject text
    return { given with permissions? := some text }

/-- The attribute that consists of the settings. -/
def ofSettings (settings : List IndexSetting) : Except Fault IndexAttribute :=
  settings.foldlM add {}

/-- Reads the attribute. It may stand without parentheses. -/
def read (tokens : List Token) : Except Fault IndexAttribute :=
  if tokens.isEmpty then .ok {}
  else tokens |> inParentheses (addSettings IndexSetting.read add {})

end IndexAttribute

/-- What the field attributes of a member say. -/
structure FieldAttribute where
  alias? : Option String := none
  /-- The member is not a field of the type. -/
  skipped : Bool := false
  deriving DecidableEq

namespace FieldAttribute

/-- Adds a setting. -/
def add (given : FieldAttribute) : FieldSetting → Except Fault FieldAttribute
  | .name text => .ok { given with alias? := some text }
  | .skip => .ok { given with skipped := true }

/-- Reads a further attribute of the same member. -/
def read (given : FieldAttribute) (tokens : List Token) : Except Fault FieldAttribute :=
  tokens |> inParentheses (addSettings FieldSetting.read add given)

end FieldAttribute

end Catalog.Annotated
