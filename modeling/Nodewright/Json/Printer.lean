import Nodewright.Json.Basic
import Nodewright.Binary64.Shortest

/-! # JSON text of a value

A layout says what stands before an item and behind a colon; the rest of the text is the same in
every layout. `Layout.compact` writes nothing there, `Layout.indented` starts a line for each item
and indents it by two spaces per level. Empty arrays and objects are `[]` and `{}` in both. -/

namespace Nodewright.Json

/-- What a JSON text has between its tokens. -/
structure Layout where
  /-- What stands before an item, or before the closing bracket, at a level of nesting. -/
  lineBreak : Nat → List Char
  /-- What stands between a colon and its value. -/
  afterColon : List Char

/-- Nothing between the tokens. -/
def Layout.compact : Layout := ⟨fun _ => [], []⟩

/-- A line for each item, indented by two spaces per level. -/
def Layout.indented : Layout := ⟨fun level => '\n' :: List.replicate (2 * level) ' ', [' ']⟩

/-- How one character stands inside a string: quotes, reverse strokes and controls are escaped. -/
def escapedChar (c : Char) : List Char :=
  if c = '"' then ['\\', '"']
  else if c = '\\' then ['\\', '\\']
  else if c.toNat = 0x08 then ['\\', 'b']
  else if c.toNat = 0x0c then ['\\', 'f']
  else if c = '\n' then ['\\', 'n']
  else if c = '\r' then ['\\', 'r']
  else if c = '\t' then ['\\', 't']
  else if c.toNat < 0x20 then
    ['\\', 'u', '0', '0', Nat.digitChar (c.toNat / 16), Nat.digitChar (c.toNat % 16)]
  else [c]

/-- A string between quotes. -/
def stringText (s : String) : List Char := '"' :: (s.toList.flatMap escapedChar ++ ['"'])

/-- A number: an integer in decimal digits, or the shortest decimal of a double. -/
def Number.text : Number → List Char
  | natural n => Nat.toDigits 10 n.toNat
  | negative size => '-' :: Nat.toDigits 10 size.toNat
  | float isNegative units => (Binary64.text isNegative units).toList

mutual

/-- The text of a value that stands at a level of nesting. -/
def write (layout : Layout) (level : Nat) : Json → List Char
  | null => ['n', 'u', 'l', 'l']
  | bool true => ['t', 'r', 'u', 'e']
  | bool false => ['f', 'a', 'l', 's', 'e']
  | number n => n.text
  | string s => stringText s
  | array [] => ['[', ']']
  | array (item :: rest) =>
    '[' :: (layout.lineBreak (level + 1) ++ write layout (level + 1) item ++
      writeItems layout (level + 1) rest ++ layout.lineBreak level ++ [']'])
  | object [] => ['{', '}']
  | object ((key, value) :: rest) =>
    '{' :: (layout.lineBreak (level + 1) ++ stringText key ++ ':' :: layout.afterColon ++
      write layout (level + 1) value ++ writeEntries layout (level + 1) rest ++
      layout.lineBreak level ++ ['}'])

/-- The texts of the items behind the first one, each behind its comma. -/
def writeItems (layout : Layout) (level : Nat) : List Json → List Char
  | [] => []
  | item :: rest =>
    ',' :: (layout.lineBreak level ++ write layout level item ++ writeItems layout level rest)

/-- The texts of the entries behind the first one, each behind its comma. -/
def writeEntries (layout : Layout) (level : Nat) : List (String × Json) → List Char
  | [] => []
  | (key, value) :: rest =>
    ',' :: (layout.lineBreak level ++ stringText key ++ ':' :: layout.afterColon ++
      write layout level value ++ writeEntries layout level rest)

end

/-- The text of a value without blanks. -/
def compact (value : Json) : String := String.ofList (value.write .compact 0)

/-- The text of a value with a line for each item. -/
def indented (value : Json) : String := String.ofList (value.write .indented 0)

end Nodewright.Json
