import Catalog.Source.Token
import Catalog.Text.Digit
import Catalog.Text.IdentifierContinue
import Catalog.Text.IdentifierStart

/-! Reading the literals of source code.
Each reader returns what it has read and the text after it. A word that follows a literal
without a gap is its suffix; it does not change the value.
-/

namespace Catalog.Source

open Text (hexDigit? isIdentifierContinue)

/-- Whether a character may start a word. -/
def startsWord (c : Char) : Bool :=
  c = '_' || Text.isIdentifierStart c

/-- Whether a character separates tokens. -/
def isBlank (c : Char) : Bool :=
  let code := c.toNat
  (9 ≤ code && code ≤ 13) || (0x2000 ≤ code && code ≤ 0x200A)
    || [0x20, 0x85, 0xA0, 0x1680, 0x2028, 0x2029, 0x202F, 0x205F, 0x3000].contains code

/-- The text after a suffix, if there is one. -/
def dropSuffix : List Char → List Char
  | [] => []
  | c :: rest => if startsWord c then rest.dropWhile isIdentifierContinue else c :: rest

/-- What a literal in quotes consists of. -/
inductive Quoted
  | characters
  | bytes
  deriving DecidableEq

/-- Reads the digits of an escape in braces, up to six of them. -/
def readBracedCode (value digits : Nat) : List Char → Option (Char × List Char)
  | [] => none
  | c :: rest =>
    if c = '_' ∧ 0 < digits then readBracedCode value digits rest
    else if c = '\x7d' ∧ 0 < digits then
      if value.isValidChar then some (Char.ofNat value, rest) else none
    else match hexDigit? c with
    | some digit =>
      if digits < 6 then readBracedCode (value * 16 + digit) (digits + 1) rest else none
    | none => none

/-- Reads a character after a backslash. -/
def readEscape (quoted : Quoted) : List Char → Option (Char × List Char)
  | 'n' :: rest => some ('\n', rest)
  | 'r' :: rest => some ('\r', rest)
  | 't' :: rest => some ('\t', rest)
  | '0' :: rest => some ('\x00', rest)
  | '\\' :: rest => some ('\\', rest)
  | '\'' :: rest => some ('\'', rest)
  | '"' :: rest => some ('"', rest)
  | 'x' :: high :: low :: rest => do
    let high ← hexDigit? high
    let low ← hexDigit? low
    if quoted = .characters ∧ 7 < high then none
    else some (Char.ofNat (high * 16 + low), rest)
  | 'u' :: '\x7b' :: rest => if quoted = .characters then readBracedCode 0 0 rest else none
  | _ => none

/-- The text after the blanks that a backslash at the end of a line joins. -/
def dropBlanks : List Char → Option (List Char)
  | [] => none
  | '\r' :: '\n' :: rest => dropBlanks rest
  | '\r' :: _ => none
  | c :: rest => if isBlank c then dropBlanks rest else some (c :: rest)

/-- Reads the next character of a literal in quotes, or a gap between two of its lines. -/
def readUnit (quoted : Quoted) : List Char → Option (List Char × List Char)
  | '\r' :: '\n' :: rest => some (['\n'], rest)
  | '\r' :: _ => none
  | '\\' :: '\n' :: rest => (dropBlanks rest).map ([], ·)
  | '\\' :: '\r' :: '\n' :: rest => (dropBlanks rest).map ([], ·)
  | '\\' :: rest => (readEscape quoted rest).map fun (c, rest) => ([c], rest)
  | c :: rest => if quoted = .bytes ∧ 127 < c.toNat then none else some ([c], rest)
  | [] => none

/-- Reads a literal up to the quote that ends it. -/
def readQuoted (quoted : Quoted) : List Char → Option (List Char × List Char)
  | [] => none
  | '"' :: rest => some ([], rest)
  | c :: rest => do
    let (unit, next) ← readUnit quoted (c :: rest)
    if next.length ≤ rest.length then
      let (more, after) ← readQuoted quoted next
      return (unit ++ more, after)
    else none
termination_by text => text.length

/-- Reads a raw literal up to the quote and the number signs that end it. -/
def readRaw (fence : List Char) : List Char → Option (List Char × List Char)
  | [] => none
  | c :: rest =>
    if fence.isPrefixOf (c :: rest) then some ([], (c :: rest).drop fence.length)
    else if c = '\r' ∧ rest.head? ≠ some '\n' then none
    else (readRaw fence rest).map fun (content, after) => (c :: content, after)

/-- Reads a raw literal after the letters that mark it. -/
def readFenced (text : List Char) : Option (List Char × List Char) :=
  let signs := text.takeWhile (· = '#')
  match text.drop signs.length with
  | '"' :: rest => if signs.length < 256 then readRaw ('"' :: signs) rest else none
  | _ => none

/-- Reads a text or a literal of bytes. -/
def readString? : List Char → Option (Token × List Char)
  | '"' :: rest => do
    let (content, after) ← readQuoted .characters rest
    return (.text (String.ofList content), dropSuffix after)
  | 'r' :: rest => do
    let (content, after) ← readFenced rest
    return (.text (String.ofList content), dropSuffix after)
  | 'b' :: '"' :: rest => do
    let (_, after) ← readQuoted .bytes rest
    return (.literal, dropSuffix after)
  | 'b' :: 'r' :: rest => do
    let (content, after) ← readFenced rest
    if content.all (·.toNat < 128) then return (.literal, dropSuffix after) else none
  | _ => none

/-- Reads a character or a byte after its first quote. -/
def readCharacter (quoted : Quoted) (text : List Char) : Option (Token × List Char) := do
  let after ←
    match text with
    | '\\' :: rest => (readEscape quoted rest).map Prod.snd
    | c :: rest => if quoted = .bytes ∧ 127 < c.toNat then none else some rest
    | [] => none
  match after with
  | '\'' :: rest => return (.literal, dropSuffix rest)
  | _ => none

/-- The text after a number, unless it goes on like a word there. -/
def endNumber (text : List Char) : Option (List Char) :=
  let rest := dropSuffix text
  match rest with
  | c :: _ => if isIdentifierContinue c then none else some rest
  | [] => some rest

/-- Whether a character may stand among the digits of a number. -/
def isDecimalChar (c : Char) : Bool :=
  c.isDigit || c = '_'

/-- The text after an exponent and its mark, if there is a digit in it. -/
def dropExponent? : List Char → Option (List Char)
  | [] => none
  | mark :: rest =>
    let unsigned :=
      match rest.dropWhile (· = '_') with
      | '+' :: rest | '-' :: rest => rest
      | rest => rest
    if (mark = 'e' || mark = 'E') && (unsigned.takeWhile isDecimalChar).any Char.isDigit then
      some (unsigned.dropWhile isDecimalChar)
    else none

/-- The text after a number that has a point or an exponent. -/
def dropFloat? (text : List Char) : Option (List Char) :=
  if text.head?.any Char.isDigit then
    let rest := text.dropWhile isDecimalChar
    match rest with
    | '.' :: fraction =>
      if fraction.head?.any fun c => c = '.' || startsWord c then none
      else
        let rest := fraction.dropWhile isDecimalChar
        some ((dropExponent? rest).getD rest)
    | _ => dropExponent? rest
  else none

/-- Reads the digits of an integer. A decimal digit beyond the base is not allowed; a letter
beyond it starts the suffix. There has to be a digit, and a decimal number starts with one.
-/
def readDigits (base value : Nat) (found : Bool) : List Char → Option (Nat × List Char)
  | [] => if found then some (value, []) else none
  | c :: rest =>
    if c = '_' then
      if found || base ≠ 10 then readDigits base value found rest else none
    else match hexDigit? c with
    | some digit =>
      if digit < base then readDigits base (value * base + digit) true rest
      else if c.isDigit || !found then none
      else some (value, c :: rest)
    | none => if found then some (value, c :: rest) else none

/-- Reads an integer. A suffix may make it a literal of another kind. -/
def readInteger? (text : List Char) : Option (Token × List Char) := do
  let (value, rest) ←
    match text with
    | '0' :: 'x' :: digits => readDigits 16 0 false digits
    | '0' :: 'o' :: digits => readDigits 8 0 false digits
    | '0' :: 'b' :: digits => readDigits 2 0 false digits
    | digits => readDigits 10 0 false digits
  let after ← endNumber rest
  let written := text.take (text.length - after.length)
  if ['f', '3', '2'].isSuffixOf written || ['f', '6', '4'].isSuffixOf written then
    return (.literal, after)
  else return (.integer value, after)

/-- Reads a number. -/
def readNumber? (text : List Char) : Option (Token × List Char) :=
  match (dropFloat? text).bind endNumber with
  | some after => some (.literal, after)
  | none => readInteger? text

end Catalog.Source
