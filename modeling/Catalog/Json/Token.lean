import Catalog.Json.Literal
import Catalog.Text.Digit

/-! The tokens of a JSON text, read character by character.
Where the text stops being JSON the tokens end with `unreadable`. A number that is too large
for a float and a string with a lone surrogate are well-formed tokens without a value.
-/

namespace Catalog.Json

open Text (digit? hexDigit?)

/-- A token of a JSON text. -/
inductive Token
  | null
  | bool (value : Bool)
  | number (value : Option Number)
  | string (value : Option String)
  | openArray
  | closeArray
  | openObject
  | closeObject
  | comma
  | colon
  | unreadable

/-- How far a number literal has been read. -/
inductive LiteralStage
  | sign
  | zero
  | whole
  | point
  | fraction
  | exponentMark
  | exponentSign
  | exponent
  deriving DecidableEq

/-- A number literal being read; its digit lists are reversed. -/
structure OpenLiteral where
  stage : LiteralStage
  negative : Bool
  whole : List Nat
  fraction : List Nat
  exponentNegative : Bool
  exponent : Nat

/-- The literal read so far, if it may end here. -/
def OpenLiteral.close? (open_ : OpenLiteral) : Option Literal :=
  let whole := open_.whole.reverse
  let fraction := if open_.fraction.isEmpty then none else some open_.fraction.reverse
  match open_.stage with
  | .zero | .whole | .fraction => some ⟨open_.negative, whole, fraction, none⟩
  | .exponent =>
    let exponent : Int := if open_.exponentNegative then -open_.exponent else open_.exponent
    some ⟨open_.negative, whole, fraction, some exponent⟩
  | _ => none

/-- What a character does to a literal being read: it continues it, ends it, or breaks the
rule that no digit follows a leading zero.
-/
inductive LiteralStep
  | continued (open_ : OpenLiteral)
  | ended
  | broken

/-- Reads one more character of a number literal. -/
def OpenLiteral.step (open_ : OpenLiteral) (c : Char) : LiteralStep :=
  match open_.stage, digit? c with
  | .sign, some 0 => .continued { open_ with stage := .zero, whole := [0] }
  | .sign, some d => .continued { open_ with stage := .whole, whole := [d] }
  | .zero, some _ => .broken
  | .whole, some d => .continued { open_ with whole := d :: open_.whole }
  | .point, some d | .fraction, some d =>
    .continued { open_ with stage := .fraction, fraction := d :: open_.fraction }
  | .exponentMark, some d | .exponentSign, some d | .exponent, some d =>
    .continued { open_ with stage := .exponent, exponent := open_.exponent * 10 + d }
  | .zero, none | .whole, none =>
    if c = '.' then .continued { open_ with stage := .point }
    else if c = 'e' ∨ c = 'E' then .continued { open_ with stage := .exponentMark }
    else .ended
  | .fraction, none =>
    if c = 'e' ∨ c = 'E' then .continued { open_ with stage := .exponentMark } else .ended
  | .exponentMark, none =>
    if c = '+' then .continued { open_ with stage := .exponentSign }
    else if c = '-' then
      .continued { open_ with stage := .exponentSign, exponentNegative := true }
    else .broken
  | .exponent, none => .ended
  | .sign, none | .point, none | .exponentSign, none => .broken

/-- Joins the code units of a string; there is no string when a surrogate stands alone. -/
def joinUnits : List Nat → Option (List Char)
  | [] => some []
  | unit :: rest =>
    if unit < 0xD800 ∨ 0xDFFF < unit then
      (joinUnits rest).map (Char.ofNat unit :: ·)
    else match rest with
    | low :: rest =>
      if unit < 0xDC00 ∧ 0xDC00 ≤ low ∧ low ≤ 0xDFFF then
        (joinUnits rest).map
          (Char.ofNat (0x10000 + (unit - 0xD800) * 0x400 + (low - 0xDC00)) :: ·)
      else none
    | [] => none

/-- What is being read. Code units of a string are reversed. -/
inductive Mode
  | between
  | word (next : Char) (rest : List Char) (token : Token)
  | literal (open_ : OpenLiteral)
  | text (units : List Nat)
  | escape (units : List Nat)
  | unicode (units : List Nat) (missing : Nat) (unit : Nat)
  | stopped

/-- The white space of JSON. -/
def isBlank (c : Char) : Bool :=
  c = ' ' || c = '\n' || c = '\t' || c = '\r'

/-- The character that a one-letter escape stands for. -/
def simpleEscape? : Char → Option Char
  | '"' => some '"'
  | '\\' => some '\\'
  | '/' => some '/'
  | 'b' => some '\x08'
  | 'f' => some '\x0c'
  | 'n' => some '\n'
  | 'r' => some '\r'
  | 't' => some '\t'
  | _ => none

/-- Reads a character outside of strings, words and numbers. -/
def startToken (c : Char) : List Token × Mode :=
  let literal : OpenLiteral := ⟨.sign, false, [], [], false, 0⟩
  if isBlank c then ([], .between)
  else match c with
  | '[' => ([.openArray], .between)
  | ']' => ([.closeArray], .between)
  | '\x7b' => ([.openObject], .between)
  | '\x7d' => ([.closeObject], .between)
  | ',' => ([.comma], .between)
  | ':' => ([.colon], .between)
  | '"' => ([], .text [])
  | 'n' => ([], .word 'u' ['l', 'l'] .null)
  | 't' => ([], .word 'r' ['u', 'e'] (.bool true))
  | 'f' => ([], .word 'a' ['l', 's', 'e'] (.bool false))
  | '-' => ([], .literal { literal with negative := true })
  | c =>
    match digit? c, literal.step c with
    | some _, .continued open_ => ([], .literal open_)
    | _, _ => ([.unreadable], .stopped)

/-- Reads one character. -/
def Mode.step : Mode → Char → List Token × Mode
  | .between, c => startToken c
  | .word next rest token, c =>
    if c = next then
      match rest with
      | [] => ([token], .between)
      | next :: rest => ([], .word next rest token)
    else ([.unreadable], .stopped)
  | .literal open_, c =>
    match open_.step c with
    | .continued open_ => ([], .literal open_)
    | .broken => ([.unreadable], .stopped)
    | .ended =>
      match open_.close? with
      | some written =>
        let (tokens, mode) := startToken c
        (.number written.value? :: tokens, mode)
      | none => ([.unreadable], .stopped)
  | .text units, c =>
    if c = '"' then ([.string ((joinUnits units.reverse).map String.ofList)], .between)
    else if c = '\\' then ([], .escape units)
    else if c.toNat < 0x20 then ([.unreadable], .stopped)
    else ([], .text (c.toNat :: units))
  | .escape units, c =>
    if c = 'u' then ([], .unicode units 4 0)
    else match simpleEscape? c with
    | some c => ([], .text (c.toNat :: units))
    | none => ([.unreadable], .stopped)
  | .unicode units missing unit, c =>
    match hexDigit? c with
    | some d =>
      if missing ≤ 1 then ([], .text ((unit * 16 + d) :: units))
      else ([], .unicode units (missing - 1) (unit * 16 + d))
    | none => ([.unreadable], .stopped)
  | .stopped, _ => ([], .stopped)

/-- What the end of the text adds. -/
def Mode.finish : Mode → List Token
  | .between | .stopped => []
  | .literal open_ =>
    match open_.close? with
    | some written => [.number written.value?]
    | none => [.unreadable]
  | .word _ _ _ | .text _ | .escape _ | .unicode _ _ _ => [.unreadable]

/-- The tokens from a mode on. -/
def Mode.tokens (mode : Mode) : List Char → List Token
  | [] => mode.finish
  | c :: rest =>
    let (tokens, mode) := mode.step c
    tokens ++ mode.tokens rest

/-- The tokens of a text. -/
def tokens (text : String) : List Token :=
  Mode.between.tokens text.toList

end Catalog.Json
