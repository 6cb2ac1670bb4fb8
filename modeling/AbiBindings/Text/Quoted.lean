import AbiBindings.Text.Visible

/-!
# Text — quoting for messages

A text inside a diagnostic stands between double quotes. A quote, a backslash and the common
controls are written with a backslash; any other character that would not show as itself is written
as its code point in hexadecimal.
-/

namespace AbiBindings.Text

/-- The digits of `n` to the base sixteen, in lower case. -/
def hex (n : Nat) : String := String.ofList (Nat.toDigits 16 n)

/-- How `c` is written inside a quoted text. -/
def quotedChar (c : Char) : String :=
  match c with
  | '"' => "\\\""
  | '\\' => "\\\\"
  | '\n' => "\\n"
  | '\r' => "\\r"
  | '\t' => "\\t"
  | '\x00' => "\\0"
  | c => if isVisible c then c.toString else "\\u\x7b" ++ hex c.toNat ++ "\x7d"

/-- `s` between double quotes, with every character that does not show as itself escaped. -/
def quoted (s : String) : String :=
  "\"" ++ String.join (s.toList.map quotedChar) ++ "\""

end AbiBindings.Text
