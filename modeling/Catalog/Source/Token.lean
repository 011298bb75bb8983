/-! The tokens of source code. -/

namespace Catalog.Source

/-- The kinds of brackets. -/
inductive Bracket
  | round
  | square
  | curly
  deriving DecidableEq, Repr

/-- A word of source code. -/
structure Word where
  /-- The word without the mark of a raw one. -/
  name : String
  /-- A raw word, written with `r#`, is a name even if it is a keyword. -/
  raw : Bool := false
  deriving DecidableEq, Repr

/-- A token of source code. -/
inductive Token
  | word (word : Word)
  /-- A punctuation character, and whether another one follows without a gap. -/
  | mark (mark : Char) (joint : Bool)
  | lifetime
  | text (value : String)
  | integer (value : Nat)
  /-- A literal of another kind. -/
  | literal
  | opening (bracket : Bracket)
  | closing (bracket : Bracket)
  deriving DecidableEq, Repr

/-- The words that are no names unless they are raw. -/
def keywords : List String :=
  ["_", "abstract", "as", "become", "box", "break", "const", "continue", "crate", "do", "else",
    "enum", "extern", "false", "final", "fn", "for", "if", "impl", "in", "let", "loop", "macro",
    "match", "mod", "move", "mut", "override", "priv", "pub", "ref", "return", "Self", "self",
    "static", "struct", "super", "trait", "true", "type", "typeof", "unsafe", "unsized", "use",
    "virtual", "where", "while", "yield"]

/-- Whether a word can name something. -/
def Word.isName (word : Word) : Bool :=
  word.raw || !keywords.contains word.name

/-- Whether every bracket is closed by one of its kind, given those that are open. -/
def closesBrackets (stack : List Bracket) : List Token → Bool
  | [] => stack.isEmpty
  | .opening bracket :: rest => closesBrackets (bracket :: stack) rest
  | .closing bracket :: rest =>
    match stack with
    | [] => false
    | top :: below => top = bracket && closesBrackets below rest
  | _ :: rest => closesBrackets stack rest

/-- The tokens up to the bracket that closes the innermost open one, and those after it. The
argument counts the brackets that are opened on the way.
-/
def splitClosing (depth : Nat) : List Token → Option (List Token × List Token)
  | [] => none
  | token :: rest =>
    let keep (depth : Nat) : Option (List Token × List Token) := do
      let (inside, after) ← splitClosing depth rest
      return (token :: inside, after)
    match token, depth with
    | .closing _, 0 => some ([], rest)
    | .closing _, depth + 1 => keep depth
    | .opening _, depth => keep (depth + 1)
    | _, depth => keep depth

end Catalog.Source
