import Catalog.Text.Digit
import Catalog.Yaml.Character
import Catalog.Yaml.Token.Basic

/-! Reading the scalars of YAML texts.
A scalar that goes over several lines is folded: a line break between two texts becomes a blank,
and every further one is kept. Texts that are being read are reversed.
-/

namespace Catalog.Yaml

/-- What has been passed over since the last character of a scalar. -/
inductive Gap
  | blanks (blanks : List Char)
  /-- Line breaks: the first, unless it is written away, and those after it. -/
  | breaks (first : Option Char) (more : List Char)

namespace Gap

/-- No gap. -/
def none : Gap := blanks []

/-- Adds a blank or a line break. Blanks around line breaks do not count. -/
def add (c : Char) : Gap → Gap
  | blanks passed => if isBreak c then breaks (some c) [] else blanks (c :: passed)
  | breaks first more => if isBreak c then breaks first (c :: more) else breaks first more

/-- What a gap contributes to the scalar, in reverse. -/
def folded : Gap → List Char
  | blanks passed => passed
  | breaks Option.none more => more
  | breaks (some first) more =>
    if first = '\n' then (if more.isEmpty then [' '] else more) else more ++ [first]

/-- Whether the gap goes over the end of a line. -/
def isMultiline : Gap → Bool
  | blanks _ => false
  | breaks _ _ => true

/-- Whether nothing has been passed over. -/
def isEmpty : Gap → Bool
  | blanks passed => passed.isEmpty
  | breaks _ _ => false

end Gap

/-- A scalar that has been read, and the text after it. -/
structure ScalarRead where
  text : String
  next : Cursor
  /-- Whether the scalar ends with a line, so that a key may follow. -/
  endsLine : Bool := false

/-- Where a plain scalar stands: inside of brackets or not, and how far its lines have to be
indented.
-/
structure PlainContext where
  flow : Bool
  indent : Int

/-- What the next character does to a plain scalar. -/
inductive PlainStep
  | blank
  | text
  | ended
  | invalid

/-- The part that the next character of a plain scalar plays. -/
def PlainContext.step (context : PlainContext) (gap : Gap) (position : Position) (c : Char)
    (rest : List Char) : PlainStep :=
  if isBlank c ∨ isBreak c then
    if c = '\t' ∧ gap.isMultiline ∧ position.column < context.indent then .invalid else .blank
  else
    let startsLine := gap.isMultiline ∧ ¬context.flow ∧ position.column < context.indent
    let cursor : Cursor := ⟨c :: rest, position⟩
    if ¬gap.isEmpty ∧ (startsLine ∨ c = '#' ∨ cursor.atMarker) then .ended
    else if c = ':' ∧ context.flow
        ∧ rest.head?.any [',', '?', '[', ']', '\x7b', '\x7d'].contains then .invalid
    else if c = ':' ∧ startsBlank rest
        ∨ context.flow ∧ [',', '[', ']', '\x7b', '\x7d'].contains c then .ended
    else .text

/-- Reads on in a plain scalar. -/
def plainScalar (context : PlainContext) (text : List Char) (gap : Gap)
    (position : Position) : List Char → Option ScalarRead
  | [] => some ⟨String.ofList text.reverse, ⟨[], position⟩, gap.isMultiline⟩
  | c :: rest =>
    match context.step gap position c rest with
    | .blank => plainScalar context text (gap.add c) (position.after c) rest
    | .text => plainScalar context (c :: gap.folded ++ text) .none (position.after c) rest
    | .ended => some ⟨String.ofList text.reverse, ⟨c :: rest, position⟩, gap.isMultiline⟩
    | .invalid => none

/-- Reads on in a single-quoted scalar. -/
def singleQuoted (text : List Char) (gap : Gap) (position : Position)
    : List Char → Option ScalarRead
  | '\'' :: '\'' :: rest =>
    singleQuoted ('\'' :: gap.folded ++ text) .none
      ((position.after '\'').after '\'') rest
  | '\'' :: rest =>
    some { text := String.ofList (gap.folded ++ text).reverse
           next := ⟨rest, position.after '\''⟩ }
  | c :: rest =>
    if isBlank c ∨ isBreak c then singleQuoted text (gap.add c) (position.after c) rest
    else if (Cursor.mk (c :: rest) position).atMarker then none
    else singleQuoted (c :: gap.folded ++ text) .none (position.after c) rest
  | [] => none

/-- How far an escape has been read. -/
inductive Escape
  | none
  | started
  | digits (missing : Nat) (code : Nat)

/-- What the character after a backslash stands for: a character, or digits to follow. -/
def escape? : Char → Option (Char ⊕ Nat)
  | '0' => some (.inl '\x00')
  | 'a' => some (.inl '\x07')
  | 'b' => some (.inl '\x08')
  | 't' | '\t' => some (.inl '\t')
  | 'n' => some (.inl '\n')
  | 'v' => some (.inl '\x0b')
  | 'f' => some (.inl '\x0c')
  | 'r' => some (.inl '\r')
  | 'e' => some (.inl '\x1b')
  | ' ' => some (.inl ' ')
  | '"' => some (.inl '"')
  | '/' => some (.inl '/')
  | '\\' => some (.inl '\\')
  | 'N' => some (.inl '\x85')
  | '_' => some (.inl '\xa0')
  | 'L' => some (.inl '\u2028')
  | 'P' => some (.inl '\u2029')
  | 'x' => some (.inr 2)
  | 'u' => some (.inr 4)
  | 'U' => some (.inr 8)
  | _ => none

/-- Reads on in a double-quoted scalar. -/
def doubleQuoted (text : List Char) (gap : Gap) (escape : Escape) (position : Position)
    : List Char → Option ScalarRead
  | [] => none
  | c :: rest =>
    let after := position.after c
    match escape with
    | .none =>
      if c = '"' then
        some { text := String.ofList (gap.folded ++ text).reverse, next := ⟨rest, after⟩ }
      else if isBlank c ∨ isBreak c then doubleQuoted text (gap.add c) .none after rest
      else if (Cursor.mk (c :: rest) position).atMarker then none
      else if c = '\\' then doubleQuoted (gap.folded ++ text) .none .started after rest
      else doubleQuoted (c :: gap.folded ++ text) .none .none after rest
    | .started =>
      if isBreak c then doubleQuoted text (.breaks Option.none []) .none after rest
      else match escape? c with
      | some (.inl meant) => doubleQuoted (meant :: text) .none .none after rest
      | some (.inr digits) => doubleQuoted text .none (.digits digits 0) after rest
      | Option.none => none
    | .digits missing code =>
      match Text.hexDigit? c with
      | Option.none => none
      | some digit =>
        let code := code * 16 + digit
        if missing ≤ 1 then
          if code.isValidChar then
            doubleQuoted (Char.ofNat code :: text) .none .none after rest
          else none
        else doubleQuoted text .none (.digits (missing - 1) code) after rest

/-- What becomes of the line breaks at the end of a block scalar. -/
inductive Chomping
  | strip
  | clip
  | keep
  deriving DecidableEq, Repr

/-- How a block scalar is read. -/
structure BlockContext where
  literal : Bool
  chomping : Chomping
  /-- The least indentation of a block whose indentation is not given. -/
  least : Nat

/-- A block scalar that is being read. -/
structure Block where
  /-- The indentation, once it is known. -/
  indent? : Option Nat
  /-- The largest indentation of the empty lines so far. -/
  widest : Nat := 0
  /-- Whether the next character belongs to the indentation of a line. -/
  indenting : Bool := true
  text : List Char := []
  /-- The break after the last line of text. -/
  lineBreak? : Option Char := none
  /-- The breaks after that one. -/
  emptyLines : List Char := []
  /-- Whether the last line of text starts with a blank. -/
  startsBlank : Bool := false

/-- Starts a line of text with the given character. A break between two lines that do not start
with a blank is folded.
-/
def Block.startLine (block : Block) (context : BlockContext) (c : Char) : Block :=
  let folds :=
    !context.literal && block.lineBreak? = some '\n' && !block.startsBlank && !isBlank c
  let gap :=
    if folds then (if block.emptyLines.isEmpty then [' '] else block.emptyLines)
    else block.emptyLines ++ block.lineBreak?.toList
  { block with
    indenting := false
    text := c :: gap ++ block.text
    lineBreak? := none
    emptyLines := []
    startsBlank := isBlank c }

/-- The text of a block scalar that ends. -/
def Block.close (block : Block) (context : BlockContext) : String :=
  let last :=
    match context.chomping with
    | .strip => []
    | .clip => block.lineBreak?.toList
    | .keep => block.emptyLines ++ block.lineBreak?.toList
  String.ofList (last ++ block.text).reverse

/-- Reads on in a block scalar. -/
def blockScalar (context : BlockContext) (block : Block) (position : Position)
    : List Char → Option ScalarRead
  | [] => some ⟨block.close context, ⟨[], position⟩, true⟩
  | c :: rest =>
    let after := position.after c
    if ¬block.indenting then
      if isBreak c then
        blockScalar context { block with indenting := true, lineBreak? := some c } after rest
      else blockScalar context { block with text := c :: block.text } after rest
    else
      let inIndent := block.indent?.all (position.column < ·)
      let widest := max block.widest position.column
      if c = ' ' ∧ inIndent then blockScalar context block after rest
      else if c = '\t' ∧ inIndent then none
      else if isBreak c then
        let emptyLines := c :: block.emptyLines
        blockScalar context { block with widest, emptyLines } after rest
      else
        let indent := block.indent?.getD (max widest context.least)
        if position.column = indent then
          let block := { block with indent? := some indent }
          blockScalar context (block.startLine context c) after rest
        else some ⟨block.close context, ⟨c :: rest, position⟩, true⟩

/-- The chomping that a sign stands for. -/
def chomping? : Char → Option Chomping
  | '-' => some .strip
  | '+' => some .keep
  | _ => none

/-- The indentation that a digit stands for. -/
def increment? (c : Char) : Option Nat :=
  if '1' ≤ c ∧ c ≤ '9' then some (c.toNat - '0'.toNat) else none

/-- Reads a block scalar from its mark on. The chomping and the indentation relative to the
block around may follow the mark, in either order.
-/
def readBlock (literal : Bool) (outer : Int) (cursor : Cursor) : Option ScalarRead := do
  let cursor := cursor.skip 1
  let sign? := cursor.rest.head?.bind chomping?
  let cursor := if sign?.isSome then cursor.skip 1 else cursor
  if cursor.rest.head? = some '0' then failure
  let increment? := cursor.rest.head?.bind increment?
  let cursor := if increment?.isSome then cursor.skip 1 else cursor
  let late? :=
    if sign?.isNone ∧ increment?.isSome then cursor.rest.head?.bind chomping? else none
  let cursor := if late?.isSome then cursor.skip 1 else cursor
  let cursor ← cursor.skipLineEnd?
  let context : BlockContext := {
    literal
    chomping := (sign?.or late?).getD .clip
    least := max 1 (outer + 1).toNat }
  let indent? := increment?.map fun increment => outer.toNat + increment
  blockScalar context { indent? } cursor.position cursor.rest

end Catalog.Yaml
