/-! # White space

`isBlank` is the white-space property of the character database, which is wider than the blanks
of ASCII, and `trimmed` drops a run of such characters from both ends of a text. -/

namespace Nodewright.Text

/-- White space: the controls U+0009 to U+000D, space, U+0085, U+00A0, and the wide, narrow and
    line-breaking spaces beyond. -/
def isBlank (c : Char) : Bool :=
  (0x09 ≤ c.toNat && c.toNat ≤ 0x0d) || c.toNat == 0x20 || c.toNat == 0x85 || c.toNat == 0xa0 ||
    c.toNat == 0x1680 || (0x2000 ≤ c.toNat && c.toNat ≤ 0x200a) || c.toNat == 0x2028 ||
    c.toNat == 0x2029 || c.toNat == 0x202f || c.toNat == 0x205f || c.toNat == 0x3000

/-- A text without the blanks at its two ends. -/
def trimmed (s : List Char) : List Char :=
  ((s.dropWhile isBlank).reverse.dropWhile isBlank).reverse

end Nodewright.Text
