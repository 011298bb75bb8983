/-! Paths of files, as texts with slashes. -/

namespace Catalog.CommandLine.Path

/-- The parts of a path between its slashes. -/
def parts (path : String) : List String :=
  path.splitOn "/"

/-- Parts from the last one on, without those at the end that lead nowhere. The first part of a
path stays.
-/
def dropIdle : List String → List String
  | [] => []
  | [first] => [first]
  | part :: before =>
    if part = "" ∨ part = "." then dropIdle before else part :: before

/-- The name of the file that a path leads to. -/
def fileName? (path : String) : Option String :=
  match dropIdle (parts path).reverse with
  | [] => none
  | last :: _ => if ["", ".", ".."].contains last then none else some last

/-- What stands after the last dot of the file name. A dot at its start does not count. -/
def extension? (path : String) : Option String := do
  let name := (← fileName? path).toList
  let extension := (name.reverse.takeWhile (· ≠ '.')).reverse
  if extension.length + 1 < name.length then some (String.ofList extension) else none

/-- The path of the folder that a path leads into; it is empty where the file name is all. -/
def parent (path : String) : String :=
  match dropIdle ((dropIdle (parts path).reverse).drop 1) with
  | [""] => "/"
  | before => "/".intercalate before.reverse

end Catalog.CommandLine.Path
