import Catalog.Yaml.Token.Property
import Catalog.Yaml.Token.Scalar

/-! The tokens of YAML texts.
Outside of brackets, indentation opens and closes blocks. A key is only known as such by the
colon after it: until then the token it starts with is a candidate, and the tokens for a key are
put in front of it once the colon is found. Tokens from a candidate on are held back, so where
the text breaks off they are lost.
-/

namespace Catalog.Yaml

/-- A token that a key may start with. -/
structure Candidate where
  /-- How many tokens stand before it. -/
  tokens : Nat
  position : Position
  /-- Whether it can be nothing but a key. -/
  required : Bool

/-- A candidate, if it still may be a key: one does not go over the end of a line and is not
longer than 1024 characters. A required one may not be given up.
-/
def Candidate.renew? (now : Position) (candidate : Candidate) : Option (Option Candidate) :=
  if candidate.position.line < now.line ∨ candidate.position.index + 1024 < now.index then
    if candidate.required then none else some none
  else some (some candidate)

/-- A YAML text that is being read. -/
structure TokenReader where
  cursor : Cursor
  /-- The candidates for a key, one for each level of brackets, innermost first. -/
  candidates : List (Option Candidate) := [none]
  indent : Int := -1
  /-- The indentations of the blocks around the innermost one. -/
  outer : List Int := []
  keyAllowed : Bool := true
  /-- The tokens so far, the last one first. -/
  tokens : List Token := []
  /-- How many of the tokens have been released. -/
  released : Nat := 0
  ended : Bool := false

namespace TokenReader

variable (reader : TokenReader)

/-- Whether the text is inside of brackets. -/
def inFlow : Bool :=
  reader.candidates.length > 1

/-- The column of the next character. -/
def column : Int :=
  reader.cursor.position.column

/-- Adds a token. -/
def emit (token : Token) : TokenReader :=
  { reader with tokens := token :: reader.tokens }

/-- Adds a token after the given number of tokens. -/
def emitAt (count : Nat) (token : Token) : TokenReader :=
  let later := reader.tokens.take (reader.tokens.length - count)
  { reader with tokens := later ++ token :: reader.tokens.drop later.length }

/-- Adds a token that has been read. -/
def accept (read : TokenRead) : TokenReader :=
  { reader with cursor := read.next, tokens := read.token :: reader.tokens }

/-- Adds a scalar that has been read. -/
def acceptScalar (style : Style) (read : ScalarRead) : TokenReader :=
  { reader with
    cursor := read.next
    tokens := .scalar read.text style :: reader.tokens
    keyAllowed := reader.keyAllowed || read.endsLine }

/-- Adds a token of the given length. -/
def mark (token : Token) (length : Nat) : TokenReader :=
  reader.accept ⟨token, reader.cursor.skip length⟩

/-- The blanks, comments and line breaks before the next token: the text after them, and
whether a key may follow.
-/
def skipSpace (flow comment keyAllowed : Bool) (position : Position)
    : List Char → Cursor × Bool
  | [] => (⟨[], position⟩, keyAllowed)
  | c :: rest =>
    let after := position.after c
    if isBreak c then skipSpace flow false (keyAllowed || !flow) after rest
    else if comment ∨ c = ' ' ∨ c = '\t' ∧ (flow ∨ ¬keyAllowed)
        ∨ c = '\uFEFF' ∧ position.index = 0 then
      skipSpace flow comment keyAllowed after rest
    else if c = '#' then skipSpace flow true keyAllowed after rest
    else (⟨c :: rest, position⟩, keyAllowed)

/-- Passes over what stands before the next token. -/
def toNext : TokenReader :=
  let (cursor, keyAllowed) :=
    skipSpace reader.inFlow false reader.keyAllowed reader.cursor.position reader.cursor.rest
  { reader with cursor, keyAllowed }

/-- Gives up the candidates that can no longer be keys. -/
def dropStale : Option TokenReader := do
  let candidates ← reader.candidates.mapM fun candidate? =>
    match candidate? with
    | some candidate => candidate.renew? reader.cursor.position
    | none => some none
  return { reader with candidates }

/-- Gives up the innermost candidate. -/
def dropCandidate : Option TokenReader :=
  match reader.candidates with
  | some candidate :: others =>
    if candidate.required then none else some { reader with candidates := none :: others }
  | _ => some reader

/-- Makes the next token a candidate, if a key may stand here. -/
def noteCandidate : Option TokenReader := do
  if ¬reader.keyAllowed then return reader
  let dropped ← reader.dropCandidate
  let candidate : Candidate := {
    tokens := reader.tokens.length
    position := reader.cursor.position
    required := !reader.inFlow && reader.indent = reader.column }
  return { dropped with candidates := some candidate :: dropped.candidates.drop 1 }

/-- Opens a block at a column, if it is further in than the innermost one. -/
def openBlock (column : Int) (count : Nat) (token : Token) : TokenReader :=
  if ¬reader.inFlow ∧ reader.indent < column then
    { reader.emitAt count token with
      indent := column
      outer := reader.indent :: reader.outer }
  else reader

/-- Closes the blocks that are further in than a column. -/
def closeBlocksFrom (column indent : Int) (tokens : List Token)
    : List Int → Int × List Int × List Token
  | [] => (indent, [], tokens)
  | next :: outer =>
    if column < indent then closeBlocksFrom column next (.blockEnd :: tokens) outer
    else (indent, next :: outer, tokens)

/-- Closes the blocks that are further in than a column. -/
def closeBlocks (column : Int) : TokenReader :=
  if reader.inFlow then reader
  else
    let (indent, outer, tokens) :=
      closeBlocksFrom column reader.indent reader.tokens reader.outer
    { reader with indent, outer, tokens }

/-- Reads a mark that opens brackets. -/
def openFlow (token : Token) : Option TokenReader := do
  let reader ← reader.noteCandidate
  return { reader.mark token 1 with
    candidates := none :: reader.candidates
    keyAllowed := true }

/-- Reads a mark that closes brackets. -/
def closeFlow (token : Token) : Option TokenReader := do
  let reader ← reader.dropCandidate
  let candidates := if reader.inFlow then reader.candidates.drop 1 else reader.candidates
  return { reader.mark token 1 with candidates, keyAllowed := false }

/-- Reads the comma between items. -/
def readComma : Option TokenReader := do
  let reader ← reader.dropCandidate
  return { reader.mark .comma 1 with keyAllowed := true }

/-- Reads the dash before an item. -/
def readDash : Option TokenReader := do
  if ¬reader.inFlow ∧ ¬reader.keyAllowed then failure
  let opened := reader.openBlock reader.column reader.tokens.length .blockSequenceStart
  let reader ← opened.dropCandidate
  return { reader.mark .dash 1 with keyAllowed := true }

/-- Reads the question mark before a key. -/
def readKey : Option TokenReader := do
  if ¬reader.inFlow ∧ ¬reader.keyAllowed then failure
  let opened := reader.openBlock reader.column reader.tokens.length .blockMappingStart
  let reader ← opened.dropCandidate
  return { reader.mark .key 1 with keyAllowed := !reader.inFlow }

/-- Reads the colon before a value. The innermost candidate is its key. -/
def readValue : Option TokenReader := do
  match reader.candidates with
  | some candidate :: others =>
    let keyed := { reader.emitAt candidate.tokens .key with candidates := none :: others }
    let opened :=
      keyed.openBlock candidate.position.column candidate.tokens .blockMappingStart
    return { opened.mark .value 1 with keyAllowed := false }
  | _ =>
    if ¬reader.inFlow ∧ ¬reader.keyAllowed then failure
    let opened := reader.openBlock reader.column reader.tokens.length .blockMappingStart
    return { opened.mark .value 1 with keyAllowed := !reader.inFlow }

/-- Reads a token that a key may start with, or that is a key. -/
def readContent (read : TokenReader → Option TokenReader) : Option TokenReader := do
  let reader ← reader.noteCandidate
  read { reader with keyAllowed := false }

/-- Reads a token that no key starts with, at the start of a line. -/
def readLine (read : TokenReader → Option TokenReader) : Option TokenReader := do
  let reader ← (reader.closeBlocks (-1)).dropCandidate
  read { reader with keyAllowed := false }

/-- Reads a plain scalar. -/
def readPlain : Option TokenReader :=
  reader.readContent fun reader => do
    let context : PlainContext := ⟨reader.inFlow, reader.indent + 1⟩
    let cursor := reader.cursor
    return reader.acceptScalar .plain
      (← plainScalar context [] .none cursor.position cursor.rest)

/-- Reads a quoted scalar. -/
def readQuoted (style : Style) (read : Cursor → Option ScalarRead) : Option TokenReader :=
  reader.readContent fun reader => do
    return reader.acceptScalar style (← read (reader.cursor.skip 1))

/-- Reads a block scalar. -/
def readBlockScalar (literal : Bool) : Option TokenReader := do
  let reader ← reader.dropCandidate
  return reader.acceptScalar (if literal then .literal else .folded)
    (← readBlock literal reader.indent reader.cursor)

/-- The characters that no plain scalar starts with. -/
def indicators : List Char :=
  [',', '[', ']', '\x7b', '\x7d', '#', '&', '*', '!', '|', '>', '\'', '"', '%', '@', '\x60']

/-- Whether a plain scalar may start with a character. -/
def startsPlain (flow : Bool) (c : Char) (rest : List Char) : Bool :=
  match c with
  | '-' => !rest.head?.any isBlank
  | '?' | ':' => !flow && !startsBlank rest
  | c => !indicators.contains c && !startsBlank (c :: rest)

/-- Reads the next token; none is read when nothing can start with the next character. -/
def step? : Option TokenReader := do
  let reader ← reader.toNext.dropStale
  let reader := reader.closeBlocks reader.column
  let flow := reader.inFlow
  match reader.cursor.rest with
  | [] =>
    let reader ← (reader.closeBlocks (-1)).dropCandidate
    return { reader.emit .streamEnd with ended := true }
  | c :: rest =>
    if reader.column = 0 ∧ c = '%' then
      reader.readLine fun reader => return reader.accept (← readDirective reader.cursor)
    else if reader.cursor.atMarker then
      reader.readLine fun reader =>
        some (reader.mark (if c = '-' then .documentStart else .documentEnd) 3)
    else match c with
    | '[' => reader.openFlow .flowSequenceStart
    | '\x7b' => reader.openFlow .flowMappingStart
    | ']' => reader.closeFlow .flowSequenceEnd
    | '\x7d' => reader.closeFlow .flowMappingEnd
    | ',' => reader.readComma
    | '*' =>
      reader.readContent fun reader => return reader.accept (← readName .aliasOf reader.cursor)
    | '&' =>
      reader.readContent fun reader => return reader.accept (← readName .anchor reader.cursor)
    | '!' =>
      reader.readContent fun reader =>
        return reader.accept (← readTag reader.inFlow reader.cursor)
    | '\'' =>
      reader.readQuoted .singleQuoted fun cursor =>
        singleQuoted [] .none cursor.position cursor.rest
    | '"' =>
      reader.readQuoted .doubleQuoted fun cursor =>
        doubleQuoted [] .none .none cursor.position cursor.rest
    | c =>
      if c = '-' ∧ startsBlank rest then reader.readDash
      else if c = '?' ∧ (flow ∨ startsBlank rest) then reader.readKey
      else if c = ':' ∧ (flow ∨ startsBlank rest) then reader.readValue
      else if c = '|' ∧ ¬flow then reader.readBlockScalar true
      else if c = '>' ∧ ¬flow then reader.readBlockScalar false
      else if startsPlain flow c rest then reader.readPlain
      else none

/-- Releases the tokens before the first candidate. -/
def release : TokenReader :=
  let held := reader.candidates.filterMap fun candidate? => candidate?.map Candidate.tokens
  { reader with released := held.foldl min reader.tokens.length }

/-- The tokens that are released where the text breaks off. -/
def broken : List Token :=
  reader.tokens.reverse.take reader.released

/-- Reads all tokens from here on. -/
def readAll (reader : TokenReader) : List Token :=
  match reader.dropStale with
  | none => reader.broken
  | some settled =>
    let settled := settled.release
    match settled.step? with
    | none => settled.broken
    | some next =>
      if next.ended then next.tokens.reverse
      else if next.cursor.rest.length < reader.cursor.rest.length then readAll next
      else settled.broken
termination_by reader.cursor.rest.length

end TokenReader

/-- The tokens of a text, up to where it stops being YAML. A text with a character that is not
allowed has none.
-/
def tokens (text : String) : List Token :=
  if text.toList.all isAllowed then
    TokenReader.readAll { cursor := { rest := unifyBreaks text.toList } }
  else []

end Catalog.Yaml
