import Nodewright.Text.Printable

/-! # Quoted text

A text between double quotes, written so that a reader sees every character: quotes, reverse
strokes and the common controls have short escapes, and a character that is not printed as it is
(see `isPlain`) is written as its code point in lower-case hexadecimal digits. -/

namespace Nodewright.Text

/-- A number in hexadecimal, with lower-case digits and no padding. -/
def hexadecimal (n : Nat) : String := String.ofList (Nat.toDigits 16 n)

/-- How one character stands inside quotes. -/
def quotedChar (c : Char) : String :=
  if c = '"' then "\\\""
  else if c = '\\' then "\\\\"
  else if c = '\t' then "\\t"
  else if c = '\n' then "\\n"
  else if c = '\r' then "\\r"
  else if c.toNat = 0 then "\\0"
  else if isPlain c then c.toString
  else "\\u\x7b" ++ hexadecimal c.toNat ++ "\x7d"

/-- A text between double quotes. -/
def quoted (s : String) : String :=
  "\"" ++ String.join (s.toList.map quotedChar) ++ "\""

end Nodewright.Text
