import Catalog.Yaml.Character
import Catalog.Yaml.Token.Basic

/-! Reading the anchors, aliases, tags and directives of YAML texts. -/

namespace Catalog.Yaml

/-- A token that has been read, and the text after it. -/
structure TokenRead where
  token : Token
  next : Cursor

/-- Reads the name of an anchor or of an alias, after its mark. -/
def readName (token : String → Token) (cursor : Cursor) : Option TokenRead := do
  let cursor := cursor.skip 1
  let name := cursor.leading isWord
  let next := cursor.skip name.length
  if name.isEmpty then failure
  let ends := next.rest.head?.any ['?', ':', ',', ']', '\x7d', '%', '@', '\x60'].contains
  if startsBlank next.rest ∨ ends then
    return ⟨token (String.ofList name), next⟩
  failure

/-- The value of two hexadecimal digits after a percent sign, and the text after them. -/
def octet? : List Char → Option (Nat × List Char)
  | '%' :: high :: low :: rest => do
    let digit (c : Char) : Option Nat :=
      if c.isDigit then some (c.toNat - '0'.toNat)
      else if 'a' ≤ c.toLower ∧ c.toLower ≤ 'f' then some (c.toLower.toNat - 'a'.toNat + 10)
      else none
    return ((← digit high) * 16 + (← digit low), rest)
  | _ => none

/-- Reads the octets that continue a character. -/
def continuedOctets? (code : Nat) : Nat → List Char → Option (Nat × List Char)
  | 0, rest => some (code, rest)
  | missing + 1, rest => do
    let (octet, rest) ← octet? rest
    if octet / 0x40 = 2 then continuedOctets? (code * 0x40 + octet % 0x40) missing rest
    else none

/-- A character written as its octets, and the text after it. -/
def escapedChar? (text : List Char) : Option (Char × List Char) := do
  let (octet, rest) ← octet? text
  let (code, rest) ←
    if octet < 0x80 then some (octet, rest)
    else if octet / 0x20 = 6 then continuedOctets? (octet % 0x20) 1 rest
    else if octet / 0x10 = 14 then continuedOctets? (octet % 0x10) 2 rest
    else if octet / 0x08 = 30 then continuedOctets? (octet % 0x08) 3 rest
    else none
  return (Char.ofNat code, rest)

/-- Whether a character may stand in the suffix of a tag; in a verbatim one some more may. -/
def isTagChar (verbatim : Bool) (c : Char) : Bool :=
  isWord c || [';', '/', '?', ':', '@', '&', '=', '+', '$', '.', '%', '!', '~', '*', '\'',
    '(', ')'].contains c || verbatim && [',', '[', ']'].contains c

/-- Replaces the escapes in the suffix of a tag. -/
def unescapeTag : List Char → Option (List Char)
  | [] => some []
  | '%' :: tail =>
    match escapedChar? ('%' :: tail) with
    | some (c, rest) =>
      if rest.length ≤ tail.length then (unescapeTag rest).map (c :: ·) else none
    | none => none
  | c :: rest => (unescapeTag rest).map (c :: ·)
termination_by text => text.length

/-- Reads the suffix of a tag. -/
def readSuffix (verbatim : Bool) (cursor : Cursor) : Option (String × Cursor) := do
  let written := cursor.leading (isTagChar verbatim)
  let suffix ← unescapeTag written
  return (String.ofList suffix, cursor.skip written.length)

/-- Reads the handle of a tag: a word between exclamation marks, or only with the first. -/
def readHandle (cursor : Cursor) : Option (String × Cursor) := do
  if cursor.rest.head? ≠ some '!' then failure
  let word := (cursor.skip 1).leading isWord
  let next := cursor.skip (word.length + 1)
  if next.rest.head? = some '!' then
    return (String.ofList ('!' :: word ++ ['!']), next.skip 1)
  return (String.ofList ('!' :: word), next)

/-- Reads the handle and suffix of a tag. A word that only its first exclamation mark belongs
to is part of the suffix, and a mark alone is a tag without handle.
-/
def readTagParts (cursor : Cursor) : Option (String × String × Cursor) := do
  if cursor.rest.drop 1 |>.head? |>.any (· = '<') then
    let (suffix, next) ← readSuffix true (cursor.skip 2)
    if suffix.isEmpty ∨ next.rest.head? ≠ some '>' then failure
    return ("", suffix, next.skip 1)
  let (handle, next) ← readHandle cursor
  let (suffix, after) ← readSuffix false next
  if handle.length > 1 ∧ handle.toList.getLast? = some '!' then
    if suffix.isEmpty then failure
    return (handle, suffix, after)
  match String.ofList (handle.toList.drop 1) ++ suffix with
  | "" => return ("", "!", after)
  | suffix => return ("!", suffix, after)

/-- Reads a tag. -/
def readTag (flow : Bool) (cursor : Cursor) : Option TokenRead := do
  let (handle, suffix, next) ← readTagParts cursor
  if startsBlank next.rest ∨ flow ∧ next.rest.head? = some ',' then
    return ⟨.tag handle suffix, next⟩
  failure

/-- Reads a number of at most nine digits. -/
def readNumber (cursor : Cursor) : Option (Nat × Cursor) :=
  let digits := cursor.leading Char.isDigit
  if digits.isEmpty ∨ digits.length > 9 then none
  else
    let value := digits.foldl (fun value c => value * 10 + (c.toNat - '0'.toNat)) 0
    some (value, cursor.skip digits.length)

/-- Reads a directive, from its mark to the end of its line. -/
def readDirective (cursor : Cursor) : Option TokenRead := do
  let cursor := cursor.skip 1
  let name := String.ofList (cursor.leading isWord)
  let cursor := cursor.skip name.length
  if ¬startsBlank cursor.rest then failure
  let value := cursor.skipLeading isBlank
  match name with
  | "YAML" =>
    let (major, next) ← readNumber value
    if next.rest.head? ≠ some '.' then failure
    let (minor, next) ← readNumber (next.skip 1)
    return ⟨.version major minor, ← next.skipLineEnd?⟩
  | "TAG" =>
    let (handle, next) ← readHandle value
    if handle.toList.getLast? ≠ some '!' then failure
    if ¬next.rest.head?.any isBlank then failure
    let (expansion, next) ← readSuffix true (next.skipLeading isBlank)
    if expansion.isEmpty ∨ ¬startsBlank next.rest then failure
    return ⟨.handle handle expansion, ← next.skipLineEnd?⟩
  | _ => failure

end Catalog.Yaml
