import Nodewright.Text.Direction
import Nodewright.Text.Joining
import Nodewright.Text.Parts
import Nodewright.Url.Folding
import Nodewright.Url.Punycode

/-! # Domain names

A domain name is compared without case, and written in ASCII: a label with characters beyond ASCII
is folded, composed, and then written in Punycode. `asciiName?` does this, and refuses names with
labels that no name can hold. -/

namespace Nodewright.Url

/-- The printable characters that end a name, or that no name can hold. -/
def delimiters : List Char :=
  ['#', '%', '/', ':', '<', '>', '?', '@', '[', '\\', ']', '^', '|']

/-- Whether a character is in ASCII. -/
def isAscii (c : Char) : Bool := c.toNat < 0x80

/-- Whether a name can hold a folded character. -/
def isNameChar (c : Char) : Bool :=
  !isAscii c || (0x20 < c.toNat && c.toNat < 0x7f && !delimiters.contains c)

/-- What a label in Punycode starts with. -/
def punycodeMark : List Char := ['x', 'n', '-', '-']

/-- A folded label as it is shown. One in Punycode must be the one way to write a label that is
    folded, composed and not in ASCII. -/
def shownLabel? (label : List Char) : Option (List Char) :=
  if punycodeMark.isPrefixOf label then
    let digits := label.drop punycodeMark.length
    match Punycode.decode? digits with
    | some shown =>
      if !shown.all isAscii && shown.all isFolded && Text.compose shown = shown &&
          Punycode.encode shown = digits then
        some shown
      else none
    | none => none
  else some label

/-- A shown label in ASCII. -/
def asciiLabel (label : List Char) : List Char :=
  if label.all isAscii then label else punycodeMark ++ Punycode.encode label

/-- Whether a name can hold a shown label: it has no character that ends a name, it does not start
    with a mark, and each joiner in it makes a difference. -/
def isLabel (label : List Char) : Bool :=
  label.all isNameChar && !label.head?.any Text.isMark && Text.joinersFit [] label

/-- Whether labels can stand in one name: if anything in it is written towards the left, every label
    is read in one direction. -/
def fitTogether (labels : List (List Char)) : Bool :=
  !labels.any Text.holdsLeftward || labels.all Text.fitsDirection

/-- A domain name in ASCII. -/
def asciiName? (name : List Char) : Option (List Char) := do
  let folded ← foldAll? name
  let labels ← (Text.parts '.' (Text.compose folded)).mapM shownLabel?
  if labels.all isLabel && fitTogether labels then
    some (['.'].intercalate (labels.map asciiLabel))
  else none

end Nodewright.Url
