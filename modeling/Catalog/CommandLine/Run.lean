import Catalog.CommandLine.Arguments
import Catalog.CommandLine.Path
import Catalog.CommandLine.Storage
import Catalog.Json.Printer
import Catalog.Manifest.Load
import Catalog.MemoryStore
import Catalog.Serialized.Operation

/-! Running commands: manifests are compiled on an empty database in memory. -/

namespace Catalog.CommandLine

/-- A message and its causes. -/
abbrev Failure := List String

/-- How a run ends. -/
inductive Outcome
  | printed (text : String)
  | failed (failure : Failure)
  /-- The arguments say no command. -/
  | misused
  deriving DecidableEq, Repr

/-- The explanation that a failure ends with. A cause of several lines is indented. -/
def Failure.lines : Failure → List String
  | [] => []
  | message :: causes =>
    let indented (first more : String) (cause : String) : List String :=
      match cause.splitOn "\n" with
      | [] => []
      | line :: rest => (first ++ line) :: rest.map (more ++ ·)
    let number (position : Nat) : String :=
      let digits := toString position
      String.ofList (List.replicate (5 - digits.length) ' ') ++ digits ++ ": "
    let explained : List String :=
      match causes with
      | [] => []
      | [cause] => "" :: "Caused by:" :: indented "    " "    " cause
      | causes =>
        "" :: "Caused by:"
          :: (causes.mapIdx fun position => indented (number position) "       ").flatten
    ("Error: " ++ message).splitOn "\n" ++ explained

/-- The format of the file at a path. -/
def formatOf (path : String) : Manifest.Format :=
  if Path.extension? path = some "json" then .json else .yaml

/-- The value that a fault of a manifest's shape is found in. An unknown key, and a choice that
nothing fits, lie one step further.
-/
def faultyValue (path : List Manifest.Segment) : Manifest.ShapeFault → List Manifest.Segment
  | .unknownKey _ _ | .noVariant _ => path.dropLast
  | _ => path

/-- A message with the place it is about. -/
def located (path : List Manifest.Segment) (message : String) : String :=
  if path.all (· = .unnamed) then message else Manifest.pathText path ++ ": " ++ message

/-- The message of an error in a manifest. In YAML the faulty value is named, too. -/
def loadMessage (format : Manifest.Format) : Manifest.LoadError → String
  | .malformed => "the text is not well-formed"
  | .misshapen path fault =>
    let message := fault.message format
    match format with
    | .json => located path message
    | .yaml => located path (located (faultyValue path fault) message)

/-- The operations of a compiled manifest, as text. -/
def CompileCommand.compile (command : CompileCommand) (manifest : Manifest)
    : Except Error String := do
  let options : PassOptions := {
    includeBase := manifest.options.includeBase || command.includeBase
    skipUndeclared := manifest.options.skipUndeclared || command.skipUndeclared }
  let scope ← manifest.toScope
  let (executed, _) :=
    match command.base? with
    | some base => MemoryStore.database.createSchemaForBase options scope base .empty
    | none => MemoryStore.database.createSchema options scope.types .empty
  return (Operation.render (Report.operations (← executed))).pretty

/-- The names of the indexes of a manifest, each on a line with its type. -/
def NamesCommand.list (command : NamesCommand) (manifest : Manifest) : Except Error String := do
  let options : PassOptions := {
    includeBase := manifest.options.includeBase
    skipUndeclared := manifest.options.skipUndeclared || command.skipUndeclared }
  let names ← options.indexNames (← manifest.toScope)
  return String.join (names.map fun (typeName, name) => typeName ++ "\t" ++ name ++ "\n")

/-- How the program is used. -/
def helpText : String :=
  "USAGE:\n"
    ++ "    compile [OPTIONS] <MANIFEST_PATH>    Compile a manifest against an in-memory database\n"
    ++ "                                         and print the executed operations\n"
    ++ "    names [OPTIONS] <MANIFEST_PATH>      Print the effective name of every index\n"
    ++ "\n"
    ++ "ARGS:\n"
    ++ "    <MANIFEST_PATH>    The path to a YAML or JSON manifest\n"
    ++ "\n"
    ++ "OPTIONS:\n"
    ++ "        --base <BASE>            Only compile the direct subtypes of this type\n"
    ++ "    -h, --help                   Print help information\n"
    ++ "        --include-base           Also compile the base type itself, after its subtypes\n"
    ++ "    -o, --out-path <OUT_PATH>    The file to write the operations to. If not provided they\n"
    ++ "                                 are written to stdout\n"
    ++ "        --skip-undeclared        Skip types without collection metadata\n"

section Run

variable {m : Type → Type} [Monad m]

/-- Reads a manifest from a file. -/
def Storage.readManifest (storage : Storage m) (path : String)
    : ExceptT Failure m Manifest := do
  match ← storage.read path with
  | .error fault => throw ["Could not read file '" ++ path ++ "'", fault.text]
  | .ok text =>
    match Manifest.load (formatOf path) text with
    | .ok manifest => return manifest
    | .error cause =>
      throw ["Invalid manifest '" ++ path ++ "'", loadMessage (formatOf path) cause]

/-- Writes a file, in a folder that is created where there is none. -/
def Storage.save (storage : Storage m) (path content : String) : ExceptT Failure m Unit := do
  if Path.extension? path ≠ some "json" then
    throw ["Invalid out path " ++ path ++ ": expected a .json file extension"]
  let parent := Path.parent path
  if let .error fault ← storage.createFolder parent then
    throw ["Could not create parent directory " ++ parent, fault.text]
  if let .error fault ← storage.write path content then
    throw ["Could not write operations to file " ++ path, fault.text]

/-- Runs a command, and returns what it prints. -/
def Command.run (storage : Storage m) : Command → ExceptT Failure m String
  | .compile command => do
    let manifest ← storage.readManifest command.manifestPath
    match command.compile manifest with
    | .error error => throw error.chain
    | .ok output =>
      match command.outPath? with
      | none => return output ++ "\n"
      | some path =>
        storage.save path output
        return ""
  | .names command => do
    let manifest ← storage.readManifest command.manifestPath
    match command.list manifest with
    | .error error => throw error.chain
    | .ok output => return output
  | .help => return helpText

/-- Runs the program with its arguments. -/
def run (storage : Storage m) (arguments : List String) : m Outcome :=
  match Command.ofArguments? arguments with
  | none => return .misused
  | some command => do
    match ← (command.run storage).run with
    | .ok text => return .printed text
    | .error failure => return .failed failure

end Run

end Catalog.CommandLine
