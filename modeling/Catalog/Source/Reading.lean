import Catalog.Source.Literal

/-! Reading source code as tokens. -/

namespace Catalog.Source

/-- The characters of punctuation. -/
def markChars : List Char :=
  "~!@#$%^&*-=+|;:,<.>/?'".toList

/-- Whether a comment starts here. -/
def startsComment : List Char → Bool
  | '/' :: '/' :: _ | '/' :: '*' :: _ => true
  | _ => false

/-- Whether a punctuation character comes next. -/
def startsMark (text : List Char) : Bool :=
  !startsComment text && text.head?.any markChars.contains

/-- The words that are never raw. -/
def neverRaw : List String :=
  ["_", "super", "self", "Self", "crate"]

/-- Reads a word. Words are compared as they are written; a compiler compares identifiers in
normalisation form C, so it may take two words for one that are kept apart here.
-/
def readWord? : List Char → Option (Word × List Char)
  | 'r' :: '#' :: c :: rest =>
    let name := String.ofList (c :: rest.takeWhile Text.isIdentifierContinue)
    if startsWord c && !neverRaw.contains name then
      some (⟨name, true⟩, rest.dropWhile Text.isIdentifierContinue)
    else none
  | c :: rest =>
    if startsWord c then
      some (⟨String.ofList (c :: rest.takeWhile Text.isIdentifierContinue), false⟩,
        rest.dropWhile Text.isIdentifierContinue)
    else none
  | [] => none

/-- Reads a lifetime after its quote. What ends with a quote is none. -/
def readLifetime? (text : List Char) : Option (Token × List Char) := do
  let (_, after) ← readWord? text
  if after.head? = some '\'' then none else some (.lifetime, after)

/-- The text after the end of a comment; the argument counts the comments that are open. -/
def dropComment (depth : Nat) : List Char → Option (List Char)
  | [] => none
  | '*' :: '/' :: rest => if depth ≤ 1 then some rest else dropComment (depth - 1) rest
  | '/' :: '*' :: rest => dropComment (depth + 1) rest
  | _ :: rest => dropComment depth rest

/-- The text from the end of the line on. -/
def dropLine (text : List Char) : List Char :=
  text.dropWhile (· ≠ '\n')

/-- The tokens that a documentation comment stands for: an attribute, which an inner comment
gives to what encloses it.
-/
def documentation (inner : Bool) : List Token :=
  (if inner then [.mark '#' true, .mark '!' false] else [.mark '#' false])
    ++ [.opening .square, .word ⟨"doc", false⟩, .mark '=' false, .text "", .closing .square]

/-- Reads a comment. -/
def readComment : List Char → Option (List Token × List Char)
  | '/' :: '/' :: '!' :: rest => some (documentation true, dropLine rest)
  | '/' :: '/' :: '/' :: '/' :: rest => some ([], dropLine rest)
  | '/' :: '/' :: '/' :: rest => some (documentation false, dropLine rest)
  | '/' :: '/' :: rest => some ([], dropLine rest)
  | '/' :: '*' :: '*' :: '/' :: rest => some ([], rest)
  | '/' :: '*' :: '!' :: rest => (dropComment 1 rest).map (documentation true, ·)
  | '/' :: '*' :: '*' :: '*' :: rest => (dropComment 1 ('*' :: '*' :: rest)).map ([], ·)
  | '/' :: '*' :: '*' :: rest => (dropComment 1 rest).map (documentation false, ·)
  | '/' :: '*' :: rest => (dropComment 1 rest).map ([], ·)
  | _ => none

/-- Reads a literal, a punctuation character or a word. A word is none that could only be the
start of a literal.
-/
def readLeaf (text : List Char) : Option (Token × List Char) :=
  let literal : Option (Token × List Char) :=
    match text with
    | '\'' :: rest => readCharacter .characters rest
    | 'b' :: '\'' :: rest => readCharacter .bytes rest
    | text => readString? text <|> readNumber? text
  let other : Option (Token × List Char) :=
    match text with
    | '\'' :: rest => readLifetime? rest
    | 'r' :: '"' :: _ | 'r' :: '#' :: '"' :: _ | 'r' :: '#' :: '#' :: _ => none
    | 'b' :: '"' :: _ | 'b' :: '\'' :: _ | 'b' :: 'r' :: '"' :: _ | 'b' :: 'r' :: '#' :: _ => none
    | c :: rest =>
      if startsMark text then some (.mark c (startsMark rest), rest)
      else (readWord? text).map fun (word, rest) => (.word word, rest)
    | [] => none
  literal <|> other

/-- Reads a token, a comment or a blank. -/
def readNext : List Char → Option (List Token × List Char)
  | '(' :: rest => some ([.opening .round], rest)
  | ')' :: rest => some ([.closing .round], rest)
  | '[' :: rest => some ([.opening .square], rest)
  | ']' :: rest => some ([.closing .square], rest)
  | '\x7b' :: rest => some ([.opening .curly], rest)
  | '\x7d' :: rest => some ([.closing .curly], rest)
  | c :: rest =>
    if isBlank c || c = '\u200e' || c = '\u200f' then some ([], rest)
    else if startsComment (c :: rest) then readComment (c :: rest)
    else (readLeaf (c :: rest)).map fun (token, rest) => ([token], rest)
  | [] => none

/-- Reads all tokens. -/
def readTokens : List Char → Option (List Token)
  | [] => some []
  | c :: rest => do
    let (tokens, next) ← readNext (c :: rest)
    if next.length ≤ rest.length then return tokens ++ (← readTokens next) else none
termination_by text => text.length

/-- The tokens of source code. There are none if a character or a bracket does not fit. -/
def tokens? (text : String) : Option (List Token) := do
  let written :=
    match text.toList with
    | '\ufeff' :: rest => rest
    | written => written
  let tokens ← readTokens written
  if closesBrackets [] tokens then some tokens else none

end Catalog.Source
