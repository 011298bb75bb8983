/-! The commands of the program and the arguments that say them.
A command takes one path, switches that are written as `--name`, and settings with a value, which
is written behind an equals sign or as the next argument. A setting may have a letter. After a
lone `--` every argument is a path.
-/

namespace Catalog.CommandLine

/-- Compile a manifest. -/
structure CompileCommand where
  manifestPath : String
  /-- Only compile the types that belong to this base. -/
  base? : Option String := none
  includeBase : Bool := false
  skipUndeclared : Bool := false
  /-- The file to write to. -/
  outPath? : Option String := none
  deriving DecidableEq, Repr

/-- List the names of indexes. -/
structure NamesCommand where
  manifestPath : String
  skipUndeclared : Bool := false
  deriving DecidableEq, Repr

/-- What the program is asked to do. -/
inductive Command
  | compile (command : CompileCommand)
  | names (command : NamesCommand)
  | help
  deriving DecidableEq, Repr

/-- Why arguments do not say a command at once. -/
inductive Interruption
  | misuse
  | help
  deriving DecidableEq, Repr

/-- The switches and settings of a command. -/
structure Signature where
  switches : List String
  /-- Each setting may also have a letter. -/
  settings : List (String × Option Char)

/-- The arguments that have been read. -/
structure Given where
  path? : Option String := none
  switches : List String := []
  settings : List (String × String) := []

namespace Given

/-- Adds the path. There is one only. -/
def addPath (given : Given) (path : String) : Except Interruption Given :=
  if given.path?.isSome then .error .misuse else .ok { given with path? := some path }

/-- Adds a switch, which must not be repeated. -/
def addSwitch (given : Given) (name : String) : Except Interruption Given :=
  if given.switches.contains name then .error .misuse
  else .ok { given with switches := name :: given.switches }

/-- Adds a setting, which must not be repeated. -/
def addSetting (given : Given) (name value : String) : Except Interruption Given :=
  if (given.settings.lookup name).isSome then .error .misuse
  else .ok { given with settings := (name, value) :: given.settings }

/-- Whether a switch is given. -/
def has (given : Given) (name : String) : Bool :=
  given.switches.contains name

/-- The value of a setting. -/
def value? (given : Given) (name : String) : Option String :=
  given.settings.lookup name

end Given

/-- What a single argument says. -/
inductive Argument
  | path (path : String)
  | switch (name : String)
  /-- A setting, with its value unless the next argument holds it. -/
  | setting (name : String) (value? : Option String)
  | help
  | escape
  | unknown
  deriving DecidableEq, Repr

/-- A name and, after an equals sign, its value. -/
def splitValue (text : List Char) : String × Option String :=
  let name := text.takeWhile (· ≠ '=')
  match text.drop name.length with
  | [] => (String.ofList name, none)
  | _ :: value => (String.ofList name, some (String.ofList value))

/-- What an argument says that starts with two dashes. -/
def Argument.ofLong (signature : Signature) (text : List Char) : Argument :=
  let (name, value?) := splitValue text
  if (signature.settings.lookup name).isSome then setting name value?
  else if value?.isSome then unknown
  else if signature.switches.contains name then switch name
  else if name = "help" then help
  else unknown

/-- What an argument says that consists of a dash, a letter and what follows. -/
def Argument.ofShort (signature : Signature) (letter : Char) (text : List Char) : Argument :=
  match signature.settings.find? (·.2 = some letter), text with
  | some (name, _), [] => setting name none
  | some (name, _), '=' :: value => setting name (some (String.ofList value))
  | some (name, _), value => setting name (some (String.ofList value))
  | none, _ => if letter = 'h' then help else unknown

/-- What an argument says. -/
def Argument.ofText (signature : Signature) (text : String) : Argument :=
  match text.toList with
  | ['-', '-'] => escape
  | '-' :: '-' :: long => ofLong signature long
  | '-' :: letter :: rest => ofShort signature letter rest
  | _ => path text

/-- Whether an argument can be the value of the setting before it. -/
def isValue (text : String) : Bool :=
  text = "-" || text.toList.head? ≠ some '-'

/-- Reads arguments one after another. -/
def Given.read (signature : Signature) (given : Given) : List String → Except Interruption Given
  | [] => .ok given
  | text :: rest =>
    match Argument.ofText signature text, rest with
    | .path path, rest => do read signature (← given.addPath path) rest
    | .switch name, rest => do read signature (← given.addSwitch name) rest
    | .setting name (some value), rest => do read signature (← given.addSetting name value) rest
    | .setting name none, value :: rest =>
      if isValue value then do read signature (← given.addSetting name value) rest
      else .error .misuse
    | .setting _ none, [] => .error .misuse
    | .help, _ => .error .help
    | .escape, rest => rest.foldlM addPath given
    | .unknown, _ => .error .misuse

/-- Reads the arguments of the compile command. The base can only be included if there is one. -/
def CompileCommand.read (arguments : List String) : Except Interruption CompileCommand := do
  let signature : Signature := {
    switches := ["include-base", "skip-undeclared"]
    settings := [("base", none), ("out-path", some 'o')] }
  let given ← Given.read signature {} arguments
  match given.path? with
  | none => throw .misuse
  | some manifestPath =>
    let base? := given.value? "base"
    let includeBase := given.has "include-base"
    if includeBase ∧ base?.isNone then throw .misuse
    return {
      manifestPath, base?, includeBase
      skipUndeclared := given.has "skip-undeclared"
      outPath? := given.value? "out-path" }

/-- Reads the arguments of the names command. -/
def NamesCommand.read (arguments : List String) : Except Interruption NamesCommand := do
  let given ← Given.read { switches := ["skip-undeclared"], settings := [] } {} arguments
  match given.path? with
  | none => throw .misuse
  | some manifestPath =>
    return { manifestPath, skipUndeclared := given.has "skip-undeclared" }

/-- Reads a command whose name stands first. -/
def Command.read : List String → Except Interruption Command
  | "compile" :: rest => compile <$> CompileCommand.read rest
  | "names" :: rest => names <$> NamesCommand.read rest
  | ["help"] | ["help", "compile"] | ["help", "names"] | ["help", "help"] => .ok help
  | argument :: _ =>
    match Argument.ofText ⟨[], []⟩ argument with
    | .help => .ok help
    | _ => .error .misuse
  | [] => .error .misuse

/-- The command that arguments say, unless they say none. -/
def Command.ofArguments? (arguments : List String) : Option Command :=
  match read arguments with
  | .ok command => some command
  | .error .help => some help
  | .error .misuse => none

end Catalog.CommandLine
