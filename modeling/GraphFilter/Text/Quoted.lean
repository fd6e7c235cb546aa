import GraphFilter.Text.Hidden

/-!
# `GraphFilter.Text.Quoted` — text in quotes for messages

`Text.quoted` puts a text between double quotes so that every character of it can be made out:
quotes and backslashes are escaped, the common controls have letters, and any other hidden character
is given by its code point.
-/

namespace GraphFilter.Text

/-- A number in hexadecimal, lower case, without leading zeros. -/
def hexadecimal (n : Nat) : String :=
  String.ofList (Nat.toDigits 16 n)

/-- A character inside quotes. -/
def quotedChar (c : Char) : String :=
  match c with
  | '"' => "\\\""
  | '\\' => "\\\\"
  | '\n' => "\\n"
  | '\r' => "\\r"
  | '\t' => "\\t"
  | '\x00' => "\\0"
  | _ => if isHidden c then "\\u\x7b" ++ hexadecimal c.toNat ++ "\x7d" else c.toString

/-- A text in quotes. -/
def quoted (s : String) : String :=
  "\"" ++ String.join (s.toList.map quotedChar) ++ "\""

end GraphFilter.Text
