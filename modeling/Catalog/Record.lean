/-! Reading a record member by member, in the order in which its members are given.
A record is read into a draft that already holds the default of every member, so a member that
is not given keeps its default. The first fault in reading order ends the reading; only then
are members missed that have to be given.
-/

namespace Catalog

variable {ν ε δ : Type}

/-- A member of a record, and how its value is put into the draft. -/
structure Member (ν ε δ : Type) where
  key : String
  read : ν → δ → Except ε δ
  /-- Whether the member has to be given under its key. -/
  required : Bool := false
  /-- Whether the member has to be given where members are told apart by position. -/
  positional : Bool := required

/-- How faults of a record are reported. -/
structure RecordFaults (ν ε : Type) where
  /-- Passes over a member of an unknown key, or refuses it. -/
  unknown : String → ν → Except ε Unit
  repeated : String → ε
  missing : String → ε

/-- Reads the members that are given under keys; `seen` holds the keys before them. -/
def Member.readEntries (members : List (Member ν ε δ)) (faults : RecordFaults ν ε)
    (seen : List String) (draft : δ) : List (Except ε String × ν) → Except ε δ
  | [] =>
    match members.find? fun member => member.required && !seen.contains member.key with
    | some member => .error (faults.missing member.key)
    | none => .ok draft
  | (key, value) :: rest => do
    let key ← key
    match members.find? (·.key = key) with
    | none =>
      faults.unknown key value
      readEntries members faults seen draft rest
    | some member =>
      if seen.contains key then throw (faults.repeated key)
      readEntries members faults (key :: seen) (← member.read value draft) rest

/-- Reads the members that are given by position, and returns the draft with the values that
are left over. A positional member that is not given is reported with its position.
-/
def Member.readItems (missing : Nat → ε) (position : Nat) (draft : δ)
    : List (Member ν ε δ) → List ν → Except ε (δ × List ν)
  | [], values => .ok (draft, values)
  | member :: members, [] =>
    if member.positional then .error (missing position)
    else readItems missing (position + 1) draft members []
  | member :: members, value :: values => do
    readItems missing (position + 1) (← member.read value draft) members values

end Catalog
