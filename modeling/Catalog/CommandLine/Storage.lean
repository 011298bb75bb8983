/-! Where the program reads and writes files. -/

namespace Catalog.CommandLine

/-- Why a path cannot be used. -/
inductive PathFault
  | missing
  | occupied
  | notFolder
  | isFolder
  | other (text : String)
  deriving DecidableEq, Repr

/-- What the system says of a fault. -/
def PathFault.text : PathFault → String
  | missing => "No such file or directory (os error 2)"
  | occupied => "File exists (os error 17)"
  | notFolder => "Not a directory (os error 20)"
  | isFolder => "Is a directory (os error 21)"
  | other text => text

/-- Access to files by their paths. -/
structure Storage (m : Type → Type) where
  read : String → m (Except PathFault String)
  /-- Creates a folder and those around it, unless they exist. -/
  createFolder : String → m (Except PathFault Unit)
  write : String → String → m (Except PathFault Unit)

end Catalog.CommandLine
