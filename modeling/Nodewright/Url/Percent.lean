/-! # Percent encoding

A character that a part of an address cannot hold is written as its bytes, each as a percent sign
and two hexadecimal digits. Which characters these are depends on the part; controls and everything
beyond ASCII are always among them. -/

namespace Nodewright.Url

/-- The ASCII characters, besides controls, that a part of an address cannot hold. -/
abbrev Reserved := List Char

/-- Nothing but controls. -/
def Reserved.control : Reserved := []

/-- What a fragment cannot hold. -/
def Reserved.fragment : Reserved := [' ', '"', '<', '>', '\x60']

/-- What a query cannot hold. -/
def Reserved.query : Reserved := [' ', '"', '#', '<', '>']

/-- What the query of a special address cannot hold. -/
def Reserved.specialQuery : Reserved := query ++ ['\'']

/-- What a segment of a path cannot hold. -/
def Reserved.path : Reserved := fragment ++ ['#', '?', '\x7b', '\x7d']

/-- What the name and the password of a user cannot hold. -/
def Reserved.userinfo : Reserved := path ++ ['/', ':', ';', '=', '@', '[', '\\', ']', '^', '|']

/-- A hexadecimal digit in capital letters. -/
def hexDigit (n : Nat) : Char := (Nat.digitChar n).toUpper

/-- A byte as a percent sign and two hexadecimal digits. -/
def percentByte (b : UInt8) : List Char :=
  ['%', hexDigit (b.toNat / 16), hexDigit (b.toNat % 16)]

/-- Whether a part that cannot hold the reserved characters can hold this one. -/
def Reserved.admits (r : Reserved) (c : Char) : Bool :=
  0x20 ≤ c.toNat && c.toNat < 0x7f && !r.contains c

/-- The text as a part can hold it. -/
def percentEncode (r : Reserved) (cs : List Char) : List Char :=
  cs.flatMap fun c =>
    if r.admits c then [c] else (String.utf8EncodeChar c).flatMap percentByte

/-- The value of a hexadecimal digit. -/
def hexValue? (c : Char) : Option Nat :=
  if '0' ≤ c && c ≤ '9' then some (c.toNat - 0x30)
  else if 'a' ≤ c && c ≤ 'f' then some (c.toNat - 0x57)
  else if 'A' ≤ c && c ≤ 'F' then some (c.toNat - 0x37)
  else none

/-- The bytes of a text in which bytes may be written with a percent sign. -/
def percentBytes : List Char → List UInt8
  | [] => []
  | '%' :: a :: b :: rest =>
    match hexValue? a, hexValue? b with
    | some high, some low => UInt8.ofNat (high * 16 + low) :: percentBytes rest
    | _, _ => 0x25 :: percentBytes (a :: b :: rest)
  | c :: rest => String.utf8EncodeChar c ++ percentBytes rest

/-- The text of which bytes may be written with a percent sign, if the bytes are one. -/
def percentDecode? (cs : List Char) : Option (List Char) :=
  (String.fromUTF8? ⟨(percentBytes cs).toArray⟩).map String.toList

end Nodewright.Url
