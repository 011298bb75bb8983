import Catalog.Text.GraphemeExtending
import Catalog.Text.Unprintable

/-! Strings in quotes, as messages show them.
Characters that would not be seen for what they are stand as escapes.
-/

namespace Catalog.Text

/-- The hexadecimal digits of a number, without leading zeros. -/
def hexText (n : Nat) : String :=
  String.ofList (Nat.toDigits 16 n)

/-- A character inside of quotes. -/
def quoteChar (c : Char) : String :=
  match c with
  | '\x00' => "\\0"
  | '\t' => "\\t"
  | '\r' => "\\r"
  | '\n' => "\\n"
  | '"' => "\\\""
  | '\\' => "\\\\"
  | ' ' => " "
  | c =>
    if isGraphemeExtending c || isUnprintable c then "\\u\x7b" ++ hexText c.toNat ++ "\x7d"
    else String.singleton c

/-- A text in quotes. -/
def quote (text : String) : String :=
  "\"" ++ String.join (text.toList.map quoteChar) ++ "\""

end Catalog.Text
