import Catalog.Text.Alphabetic
import Catalog.Text.Lowercase
import Catalog.Text.Numeric
import Catalog.Text.Uppercase

/-! Rules that turn the members of a struct into the names they are stored under.
Letters and digits are those of Unicode, but only ASCII letters change their case.
-/

namespace Catalog

/-- A way to write names of several words. -/
inductive RenameRule
  | pascal
  | camel
  | snake
  | kebab
  | screamingSnake
  deriving DecidableEq, Repr

namespace RenameRule

/-- The rule of the given name. -/
def ofName? : String → Option RenameRule
  | "PascalCase" => some pascal
  | "camelCase" => some camel
  | "snake_case" => some snake
  | "kebab-case" => some kebab
  | "SCREAMING_SNAKE_CASE" => some screamingSnake
  | _ => none

/-- Whether a character belongs to a word; all others stand between words. -/
def isWordChar (c : Char) : Bool :=
  Text.isAlphabetic c || Text.isNumeric c

/-- How far words have been run together. -/
structure HumpState where
  /-- The next letter begins a word. -/
  starting : Bool
  /-- The last letter that was written small. -/
  last : Char := ' '
  /-- Some word has begun. -/
  found : Bool := false

/-- Runs words together, each but the first with a capital, from a state on. A digit ends a
word, and so does a capital after a small letter.
-/
def joinHumps (state : HumpState) : List Char → List Char
  | [] => []
  | c :: rest =>
    if !isWordChar c then
      joinHumps { state with starting := state.starting || state.found } rest
    else if Text.isNumeric c then
      c :: joinHumps { state with starting := true, found := true } rest
    else if state.starting || (Text.isLowercase state.last && Text.isUppercase c) then
      c.toUpper :: joinHumps { state with starting := false, found := true } rest
    else
      c.toLower :: joinHumps { state with last := c, found := true } rest

/-- How words are set apart. -/
structure WordStyle where
  separator : Char
  change : Char → Char

/-- Whether a separator goes before a character without a small form of its own: one of its
neighbours has to be small. The neighbours are looked up in the whole name by the offset in bytes,
so they are the true ones as long as all characters before are ASCII.
-/
def bordersSmall (whole : List Char) (offset : Nat) : Bool :=
  let isSmallAt (position : Nat) : Bool := Text.isLowercase (whole[position]?.getD 'A')
  isSmallAt (offset + 1) || isSmallAt (offset - 1)

/-- Sets words apart, from the character at an offset on. -/
def separateWords (style : WordStyle) (whole : List Char) (offset : Nat) (starting : Bool)
    : List Char → List Char
  | [] => []
  | c :: rest =>
    let next := offset + c.utf8Size
    if !isWordChar c then
      if starting then separateWords style whole next true rest
      else style.separator :: separateWords style whole next true rest
    else
      let written := style.change c :: separateWords style whole next false rest
      if !starting && c = c.toUpper && bordersSmall whole offset then
        style.separator :: written
      else written

/-- A name without what stands after its last word. -/
def trimEnd (name : List Char) : List Char :=
  (name.reverse.dropWhile (!isWordChar ·)).reverse

/-- Writes a name by a rule. -/
def apply (rule : RenameRule) (name : String) : String :=
  let whole := name.toList
  let separate (style : WordStyle) : List Char :=
    separateWords style whole 0 true (trimEnd whole)
  String.ofList <|
    match rule with
    | pascal => joinHumps { starting := true } (trimEnd whole)
    | camel => joinHumps { starting := false } (trimEnd whole)
    | snake => separate ⟨'_', Char.toLower⟩
    | kebab => separate ⟨'-', Char.toLower⟩
    | screamingSnake => separate ⟨'_', Char.toUpper⟩

end RenameRule

end Catalog
