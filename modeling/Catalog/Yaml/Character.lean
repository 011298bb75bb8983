/-! The characters of YAML texts. -/

namespace Catalog.Yaml

/-- Whether a text may hold the character at all. -/
def isAllowed (c : Char) : Bool :=
  let code := c.toNat
  code = 0x09 || code = 0x0A || code = 0x0D || 0x20 ≤ code && code ≤ 0x7E || code = 0x85
    || 0xA0 ≤ code && code ≤ 0xFFFD || 0x10000 ≤ code

/-- Writes every line break that reads as a plain one as a line feed. The line and paragraph
separators remain as they are.
-/
def unifyBreaks : List Char → List Char
  | '\r' :: '\n' :: rest => '\n' :: unifyBreaks rest
  | c :: rest => (if c = '\r' ∨ c = '\x85' then '\n' else c) :: unifyBreaks rest
  | [] => []

/-- Whether a character ends a line. -/
def isBreak (c : Char) : Bool :=
  c = '\n' || c = '\u2028' || c = '\u2029'

/-- Whether a character is a blank or a tab. -/
def isBlank (c : Char) : Bool :=
  c = ' ' || c = '\t'

/-- Whether a character may stand in an anchor or in the handle of a tag. -/
def isWord (c : Char) : Bool :=
  c.isAlphanum || c = '_' || c = '-'

/-- Whether a blank, a line break or the end of the text comes next. -/
def startsBlank : List Char → Bool
  | [] => true
  | c :: _ => isBlank c || isBreak c

/-- Whether a line break or the end of the text comes next. -/
def startsBreak : List Char → Bool
  | [] => true
  | c :: _ => isBreak c

/-- A place in a text. -/
structure Position where
  index : Nat := 0
  line : Nat := 0
  column : Nat := 0
  deriving DecidableEq, Repr

/-- The place after a character. -/
def Position.after (position : Position) (c : Char) : Position :=
  if isBreak c then ⟨position.index + 1, position.line + 1, 0⟩
  else ⟨position.index + 1, position.line, position.column + 1⟩

/-- The rest of a text, and the place where it starts. -/
structure Cursor where
  rest : List Char
  position : Position := {}

namespace Cursor

/-- Passes over a number of characters. -/
def skip (cursor : Cursor) (count : Nat) : Cursor :=
  ⟨cursor.rest.drop count, (cursor.rest.take count).foldl Position.after cursor.position⟩

/-- The characters up to the first that does not satisfy the condition. -/
def leading (cursor : Cursor) (condition : Char → Bool) : List Char :=
  cursor.rest.takeWhile condition

/-- Passes over the characters that satisfy the condition. -/
def skipLeading (cursor : Cursor) (condition : Char → Bool) : Cursor :=
  cursor.skip (cursor.leading condition).length

/-- Whether a document marker stands here: at the start of a line, with a blank after it. -/
def atMarker (cursor : Cursor) : Bool :=
  cursor.position.column = 0 &&
    match cursor.rest with
    | '-' :: '-' :: '-' :: rest | '.' :: '.' :: '.' :: rest => startsBlank rest
    | _ => false

/-- Passes over the rest of a line that holds nothing but blanks and a comment. -/
def skipLineEnd? (cursor : Cursor) : Option Cursor :=
  let cursor := cursor.skipLeading isBlank
  let cursor :=
    if cursor.rest.head? = some '#' then cursor.skipLeading fun c => !isBreak c else cursor
  if startsBreak cursor.rest then some (cursor.skip 1) else none

end Cursor

end Catalog.Yaml
