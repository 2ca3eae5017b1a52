import Nodewright.Text.Parts
import Nodewright.Url.Percent

/-! # Segments of a path

The segments of a path stand between its strokes. They are read from left to right: a segment of
one dot stays where it is, one of two dots goes back, and any other goes one further.

A drive is never gone back from, so two dots behind a drive stay where they are too. At the root of
a file, a drive is written with a colon, and says that the file is here. -/

namespace Nodewright.Url

/-- Whether a character does not count within an address: tabs and line ends do not. -/
def isIgnored (c : Char) : Bool := c = '\t' || c = '\n' || c = '\r'

/-- A text without the characters that do not count. -/
def compact (cs : List Char) : List Char := cs.filter fun c => !isIgnored c

/-- Whether a character is an ASCII letter. -/
def isLetter (c : Char) : Bool := ('a' ≤ c && c ≤ 'z') || ('A' ≤ c && c ≤ 'Z')

/-- Whether a character divides a path; in a special address either stroke does. -/
def isStroke (special : Bool) (c : Char) : Bool := c = '/' || (special && c = '\\')

/-- The parts of a text between its strokes. -/
def strokeParts (special : Bool) (cs : List Char) : List (List Char) :=
  Text.parts '/' (cs.map fun c => if isStroke special c then '/' else c)

/-- A segment with its encoded dots decoded. -/
def dots : List Char → List Char
  | [] => []
  | '%' :: '2' :: e :: rest =>
    if e = 'e' || e = 'E' then '.' :: dots rest else '%' :: '2' :: e :: dots rest
  | c :: rest => c :: dots rest

/-- Whether a segment is the name of a drive: a letter and a colon, or a bar in its place. -/
def isDrive : List Char → Bool
  | [a, b] => isLetter a && (b = ':' || b = '|')
  | _ => false

/-- Whether two dots do not go back from a segment: it is a drive, or a backstroke that divides
    nothing stands behind a drive in it. -/
def holdsDrive : List Char → Bool
  | a :: b :: '\\' :: _ => isDrive [a, b]
  | segment => isDrive segment

/-- The drive at the front of a segment that a tab or line end cuts off from the rest of the
    segment, and that rest. -/
def cutDrive? (segment : List Char) : Option (List Char × List Char) :=
  match segment.dropWhile isIgnored with
  | a :: rest =>
    match rest.dropWhile isIgnored with
    | ':' :: rest =>
      if isLetter a && rest.head?.any isIgnored && !(compact rest).isEmpty then
        some ([a, ':'], compact rest)
      else none
    | _ => none
  | [] => none

/-- What is read of a path so far. -/
structure Trail where
  /-- The segments, the last one first. -/
  done : List (List Char)
  /-- Whether the path starts at a drive. -/
  onDrive : Bool
deriving DecidableEq, Repr

namespace Trail

/-- The root of a path. -/
def root : Trail := ⟨[], false⟩

/-- One segment further. -/
def push (t : Trail) (segment : List Char) : Trail := { t with done := segment :: t.done }

/-- One segment back, but not from a drive. -/
def back (t : Trail) : Trail :=
  match t.done with
  | [] => t
  | last :: rest => if holdsDrive last then t else { t with done := rest }

/-- Reads the next segment. A path that ends in dots ends in a stroke. -/
def step (t : Trail) (isFile isLast : Bool) (segment : List Char) : Trail :=
  let atRoot := isFile && t.done.isEmpty
  let stop (t : Trail) : Trail := if isLast then t.push [] else t
  match if atRoot then cutDrive? segment else none with
  | some (drive, rest) => (t.push drive).push (percentEncode .path rest)
  | none =>
    let segment := compact segment
    if dots segment = ['.', '.'] then stop t.back
    else if dots segment = ['.'] then stop t
    else if atRoot && isDrive segment then ⟨[segment.take 1 ++ [':']], true⟩
    else t.push (percentEncode .path segment)

/-- Reads the segments that follow. -/
def walk (isFile : Bool) : Trail → List (List Char) → Trail
  | t, [] => t
  | t, segment :: rest => walk isFile (t.step isFile rest.isEmpty segment) rest

/-- Reads the text of a path from its root. -/
def ofText (special isFile : Bool) (cs : List Char) : Trail :=
  walk isFile root (strokeParts special cs)

end Trail

end Nodewright.Url
