import GpuSync.Text.Hidden

/-!
# Quoted text

A label is quoted when it appears inside a structured text. The quote stands between double
quotes, escapes the double quote and the backslash, names the common control characters by a
letter, and gives every other character without a visible form by its code point.

## Main definitions

* `GpuSync.Text.escape` is the written form of one character.
* `GpuSync.Text.quote` is the written form of a text.
-/

namespace GpuSync.Text

/-- A code point in lower case hexadecimal digits between braces, as in `\u{7f}`. -/
def codePoint (c : Char) : String :=
  "\\u\x7b" ++ String.ofList (Nat.toDigits 16 c.toNat) ++ "\x7d"

/-- How a character is written between double quotes. -/
def escape (c : Char) : String :=
  match c with
  | '"' => "\\\""
  | '\\' => "\\\\"
  | '\n' => "\\n"
  | '\r' => "\\r"
  | '\t' => "\\t"
  | '\x00' => "\\0"
  | _ => if isHidden c then codePoint c else c.toString

/-- A text between double quotes, each character escaped where it has to be. -/
def quote (s : String) : String :=
  "\"" ++ String.join (s.toList.map escape) ++ "\""

end GpuSync.Text
