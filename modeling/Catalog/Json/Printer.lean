import Catalog.Json.Basic
import Catalog.Number.Layout

/-! The text of a JSON value, on one line or indented.
Only what JSON does not allow inside a string is escaped; all other characters stand for
themselves.
-/

namespace Catalog.Json

/-- A hexadecimal digit, in lower case. -/
def hexDigit (n : Nat) : Char :=
  if n < 10 then Char.ofNat ('0'.toNat + n) else Char.ofNat ('a'.toNat + (n - 10))

/-- A character inside a string. -/
def escapeChar (c : Char) : List Char :=
  match c with
  | '"' => ['\\', '"']
  | '\\' => ['\\', '\\']
  | '\x08' => ['\\', 'b']
  | '\x0c' => ['\\', 'f']
  | '\n' => ['\\', 'n']
  | '\r' => ['\\', 'r']
  | '\t' => ['\\', 't']
  | c =>
    if c.toNat < 0x20 then
      ['\\', 'u', '0', '0', hexDigit (c.toNat / 16), hexDigit (c.toNat % 16)]
    else [c]

/-- A string in quotes. -/
def quote (s : String) : String :=
  String.ofList ('"' :: s.toList.flatMap escapeChar ++ ['"'])

/-- The text of a number. -/
def Number.render : Number → String
  | .int value _ => toString value
  | .float value _ => Number.Layout.json.renderFloat value

mutual

/-- The text of a value on one line, without blanks. -/
def compact : Json → String
  | null => "null"
  | bool b => if b then "true" else "false"
  | number n => n.render
  | string s => quote s
  | array items => "[" ++ ",".intercalate (compactItems items) ++ "]"
  | object entries => "\x7b" ++ ",".intercalate (compactEntries entries) ++ "\x7d"

/-- The texts of the items of an array. -/
def compactItems : List Json → List String
  | [] => []
  | item :: rest => item.compact :: compactItems rest

/-- The texts of the entries of an object. -/
def compactEntries : List (String × Json) → List String
  | [] => []
  | (key, value) :: rest => (quote key ++ ":" ++ value.compact) :: compactEntries rest

end

/-- A line break followed by two blanks for each level. -/
def lineBreak (level : Nat) : String :=
  String.ofList ('\n' :: List.replicate (2 * level) ' ')

/-- Puts the parts of an array or object on lines of their own; an empty one takes no line. -/
def layOut (opening closing : String) (level : Nat) (parts : List String) : String :=
  if parts.isEmpty then opening ++ closing
  else
    opening ++ lineBreak (level + 1) ++ ("," ++ lineBreak (level + 1)).intercalate parts
      ++ lineBreak level ++ closing

mutual

/-- The text of a value over several lines; `level` is that of the line it starts on. -/
def indented (level : Nat) : Json → String
  | null => "null"
  | bool b => if b then "true" else "false"
  | number n => n.render
  | string s => quote s
  | array items => layOut "[" "]" level (indentedItems (level + 1) items)
  | object entries => layOut "\x7b" "\x7d" level (indentedEntries (level + 1) entries)

/-- The texts of the items of an array. -/
def indentedItems (level : Nat) : List Json → List String
  | [] => []
  | item :: rest => item.indented level :: indentedItems level rest

/-- The texts of the entries of an object. -/
def indentedEntries (level : Nat) : List (String × Json) → List String
  | [] => []
  | (key, value) :: rest =>
    (quote key ++ ": " ++ value.indented level) :: indentedEntries level rest

end

/-- The text of a value over several lines. -/
def pretty (value : Json) : String :=
  value.indented 0

end Catalog.Json
