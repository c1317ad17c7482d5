import BlockCursor.Text.Hidden

/-!
# Quoted text

How a text found in a document is shown inside a message: in double quotes, with what would break
the quotes or would not show written as an escape.

* `quoted` — the text in quotes.
-/

namespace BlockCursor.Text

/-- The hexadecimal digits of a number, in lower case. -/
def hexText (n : Nat) : String :=
  String.ofList (Nat.toDigits 16 n)

/-- A character as it stands between quotes. -/
def escaped (c : Char) : String :=
  match c with
  | '"' => "\\\""
  | '\\' => "\\\\"
  | '\n' => "\\n"
  | '\r' => "\\r"
  | '\t' => "\\t"
  | _ =>
    if c.toNat = 0 then "\\0"
    else if isHidden c then "\\u\x7b" ++ hexText c.toNat ++ "\x7d"
    else String.singleton c

/-- A text in double quotes. -/
def quoted (s : String) : String :=
  "\"" ++ String.join (s.toList.map escaped) ++ "\""

end BlockCursor.Text
