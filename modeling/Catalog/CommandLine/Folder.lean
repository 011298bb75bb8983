import Catalog.CommandLine.Path
import Catalog.CommandLine.Storage

/-! A folder of files that is held in memory. -/

namespace Catalog.CommandLine

/-- A folder. The paths in it are lists of names. -/
structure Folder where
  files : List (List String × String) := []
  folders : List (List String) := []

/-- What a path leads to. -/
inductive Place
  | folder
  | file (path : List String) (content : String)
  /-- Nothing, in a folder that exists. -/
  | vacant (path : List String)

namespace Folder

/-- Follows names from a folder on. -/
def follow (folder : Folder) (here : List String) : List String → Except PathFault Place
  | [] => .ok .folder
  | "." :: rest => folder.follow here rest
  | ".." :: rest => folder.follow here.dropLast rest
  | name :: rest =>
    let path := here ++ [name]
    if folder.folders.contains path then folder.follow path rest
    else match folder.files.lookup path, rest.isEmpty with
    | some content, true => .ok (.file path content)
    | some _, false => .error .notFolder
    | none, true => .ok (.vacant path)
    | none, false => .error .missing

/-- The names that a path goes through. A slash at the end asks for a folder. -/
def names (path : String) : List String :=
  let parts := Path.parts path
  let inner := parts.filter (· ≠ "")
  if 1 < parts.length ∧ parts.getLast? = some "" then inner ++ ["."] else inner

/-- What a path leads to. Only paths within the folder lead anywhere. -/
def locate (folder : Folder) (path : String) : Except PathFault Place :=
  if path.toList.head?.all (· = '/') then .error .missing
  else folder.follow [] (names path)

/-- Reads a file. -/
def read (folder : Folder) (path : String) : Except PathFault String :=
  match folder.locate path with
  | .error fault => .error fault
  | .ok .folder => .error .isFolder
  | .ok (.file _ content) => .ok content
  | .ok (.vacant _) => .error .missing

/-- Creates the folders that names go through, from a folder on. -/
def createFrom (folder : Folder) (here : List String) : List String → Except PathFault Folder
  | [] => .ok folder
  | "." :: rest => folder.createFrom here rest
  | ".." :: rest => folder.createFrom here.dropLast rest
  | name :: rest =>
    let path := here ++ [name]
    if folder.folders.contains path then folder.createFrom path rest
    else if (folder.files.lookup path).isSome then
      .error (if rest.isEmpty then .occupied else .notFolder)
    else { folder with folders := path :: folder.folders }.createFrom path rest

/-- Creates a folder and those around it. -/
def create (folder : Folder) (path : String) : Except PathFault Folder :=
  if path.toList.head? = some '/' then .error .missing
  else folder.createFrom [] (names path)

/-- Writes a file. -/
def write (folder : Folder) (path content : String) : Except PathFault Folder :=
  match folder.locate path with
  | .error .missing =>
    .error (if path.toList.getLast? = some '/' then .isFolder else .missing)
  | .error fault => .error fault
  | .ok .folder => .error .isFolder
  | .ok (.file path _) | .ok (.vacant path) =>
    .ok { folder with files := (path, content) :: folder.files.filter (·.1 ≠ path) }

/-- Puts a file into a folder that is created for it, unless its path cannot be used. -/
def put (folder : Folder) (path content : String) : Folder :=
  match folder.create (Path.parent path) with
  | .error _ => folder
  | .ok created => (created.write path content).toOption.getD folder

/-- A folder with the given files. -/
def ofFiles (files : List (String × String)) : Folder :=
  files.foldl (fun folder (path, content) => folder.put path content) {}

/-- Runs a change, which leaves the folder as it is where it fails. -/
def change (action : Folder → Except PathFault Folder) : StateM Folder (Except PathFault Unit) :=
  fun folder =>
    match action folder with
    | .ok changed => (.ok (), changed)
    | .error fault => (.error fault, folder)

/-- The folder as a storage. -/
def storage : Storage (StateM Folder) where
  read path := return (← get).read path
  createFolder path := change (·.create path)
  write path content := change (·.write path content)

end Folder

end Catalog.CommandLine
