import Catalog.CommandLine.Run

/-! The command line program. -/

namespace Catalog.CommandLine

/-- The fault that an error of the system means. -/
def PathFault.ofError : IO.Error → PathFault
  | .noFileOrDirectory _ _ _ => missing
  | .alreadyExists _ _ _ => occupied
  | .inappropriateType _ code _ => if code = 21 then isFolder else notFolder
  | error => other (toString error)

/-- Runs an action, and returns the fault it ends with. -/
def attempt {α : Type} (action : IO α) : IO (Except PathFault α) := do
  match ← action.toBaseIO with
  | .ok value => return .ok value
  | .error error => return .error (.ofError error)

/-- The files of the system. -/
def systemStorage : Storage IO where
  read path := attempt (IO.FS.readFile path)
  createFolder path := attempt (if path = "" then pure () else IO.FS.createDirAll path)
  write path content := attempt (IO.FS.writeFile path content)

/-- Runs the program with the files of the system. It ends with 0, with 1 where something fails,
and with 2 where the arguments say no command.
-/
def perform (arguments : List String) : IO UInt32 := do
  match ← run systemStorage arguments with
  | .printed text =>
    IO.print text
    return 0
  | .failed failure =>
    failure.lines.forM fun line => IO.eprintln line
    return 1
  | .misused =>
    IO.eprint helpText
    return 2

end Catalog.CommandLine

/-- The program. -/
def main (arguments : List String) : IO UInt32 :=
  Catalog.CommandLine.perform arguments
