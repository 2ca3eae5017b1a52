import Nodewright.Text.CompositionTable

/-! # Composed texts

Texts that look the same may be written in several ways: a letter with a mark as one character or
as two, two marks in either order, a syllable as one character or as its letters. `compose` gives
all of them the same form: every character is taken apart, the marks behind one letter are put in
the order of their classes, and then each letter takes up the marks it can. -/

namespace Nodewright.Text

/-- The class of a mark that has an order among the marks behind one letter, and 0 for any other
    character. -/
def combiningClass (n : Nat) : Nat :=
  match combiningClasses.find? fun (first, last, _) => first ≤ n && n ≤ last with
  | some (_, _, order) => order
  | none => 0

/-- The class of the signs that take the vowel from a letter. -/
def virama : Nat := 9

/-- The two characters that a syllable in one character is joined from: a leading letter and a
    vowel, or such a syllable and a trailing letter. -/
def syllableParts? (n : Nat) : Option (Nat × Nat) :=
  if n < 0xac00 || 0xd7a3 < n then none
  else
    let trailing := (n - 0xac00) % 28
    if trailing = 0 then some (0x1100 + (n - 0xac00) / 588, 0x1161 + (n - 0xac00) % 588 / 28)
    else some (n - trailing, 0x11a7 + trailing)

/-- The syllable that two characters are joined to. -/
def syllable? (a b : Nat) : Option Nat :=
  if 0x1100 ≤ a && a ≤ 0x1112 && 0x1161 ≤ b && b ≤ 0x1175 then
    some (0xac00 + (a - 0x1100) * 588 + (b - 0x1161) * 28)
  else if 0xac00 ≤ a && a ≤ 0xd7a3 && (a - 0xac00) % 28 = 0 && 0x11a7 < b && b ≤ 0x11c2 then
    some (a + (b - 0x11a7))
  else none

/-- The letter and the mark that are one character. -/
def markedParts? (n : Nat) : Option (Nat × Nat) :=
  compositions.findSome? fun (mark, letters) =>
    (letters.find? (·.2 = n)).map fun (letter, _) => (letter, mark)

/-- The one character that a letter and a mark are. -/
def marked? (letter mark : Nat) : Option Nat :=
  ((compositions.lookup mark).bind (·.lookup letter))

/-- The two characters that a character is composed of. -/
def pair? (n : Nat) : Option (Nat × Nat) := (syllableParts? n).or (markedParts? n)

/-- The character that two characters are composed to. -/
def composed? (a b : Nat) : Option Nat := (syllable? a b).or (marked? a b)

/-- A character as characters that are not composed. Only the first of two parts may be composed in
    turn, and no part of that one is. -/
def decompose (n : Nat) : List Nat :=
  match pair? n with
  | none => [n]
  | some (a, b) =>
    match pair? a with
    | none => [a, b]
    | some (letter, mark) => [letter, mark, b]

/-- Puts a character in front of others, but behind the marks of lower classes. -/
def insertMark (n : Nat) : List Nat → List Nat
  | [] => [n]
  | m :: rest =>
    if combiningClass m ≠ 0 && combiningClass m < combiningClass n then m :: insertMark n rest
    else n :: m :: rest

/-- The characters with the marks behind each letter in the order of their classes. -/
def arrange (ns : List Nat) : List Nat := ns.foldr insertMark []

/-- A letter with what it can take up of the characters behind it. A mark is out of its reach behind
    another of the same or a higher class, and so is a letter behind any mark. The marks that were
    not taken up are given in reverse. -/
def takeUp (letter : Nat) (marks : List Nat) : List Nat → List Nat
  | [] => letter :: marks.reverse
  | n :: rest =>
    let inReach := marks.head?.all fun m => combiningClass m < combiningClass n
    match if inReach then composed? letter n else none with
    | some whole => takeUp whole marks rest
    | none =>
      if combiningClass n = 0 then letter :: (marks.reverse ++ takeUp n [] rest)
      else takeUp letter (n :: marks) rest

/-- A text in composed form. -/
def compose (cs : List Char) : List Char :=
  match arrange ((cs.map Char.toNat).flatMap decompose) with
  | [] => []
  | n :: rest => (takeUp n [] rest).map Char.ofNat

end Nodewright.Text
