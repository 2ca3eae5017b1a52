import Nodewright.Binary64.Magnitude
import Nodewright.Text.Blank

/-! # Quantities of a resource

A quantity is a decimal number with an optional suffix that scales it, such as `500m` or `1.5Gi`.
`Quantity.ofText?` reads one from a text with blanks around it, and `Quantity.amount` is its value
in base units (cores or bytes): the decimal is rounded to a double, and so is its product with the
scale. Quantities are compared by their amounts. -/

namespace Nodewright

/-- What a suffix multiplies by. -/
inductive Quantity.Scale where
  | one
  | milli
  | kilo
  | mega
  | giga
  | tera
  | peta
  | exa
  | kibi
  | mebi
  | gibi
  | tebi
  | pebi
  | exbi
deriving DecidableEq, Repr

/-- The decimal of the given digits, the last of which so many stand behind the point, with a
    scale. -/
structure Quantity where
  digits : Nat
  places : Nat
  scale : Quantity.Scale
deriving DecidableEq, Repr

namespace Quantity

open Binary64 (Magnitude)

namespace Scale

/-- The suffix of a scale. -/
def suffix : Scale → List Char
  | one => []
  | milli => ['m']
  | kilo => ['k']
  | mega => ['M']
  | giga => ['G']
  | tera => ['T']
  | peta => ['P']
  | exa => ['E']
  | kibi => ['K', 'i']
  | mebi => ['M', 'i']
  | gibi => ['G', 'i']
  | tebi => ['T', 'i']
  | pebi => ['P', 'i']
  | exbi => ['E', 'i']

/-- Every scale. -/
def all : List Scale :=
  [one, milli, kilo, mega, giga, tera, peta, exa, kibi, mebi, gibi, tebi, pebi, exbi]

/-- The scale of a suffix. -/
def ofSuffix? (cs : List Char) : Option Scale := all.find? fun s => s.suffix == cs

/-- A scale as a quotient of natural numbers. -/
def ratio : Scale → Nat × Nat
  | one => (1, 1)
  | milli => (1, 1000)
  | kilo => (Nat.pow 10 3, 1)
  | mega => (Nat.pow 10 6, 1)
  | giga => (Nat.pow 10 9, 1)
  | tera => (Nat.pow 10 12, 1)
  | peta => (Nat.pow 10 15, 1)
  | exa => (Nat.pow 10 18, 1)
  | kibi => (Nat.pow 2 10, 1)
  | mebi => (Nat.pow 2 20, 1)
  | gibi => (Nat.pow 2 30, 1)
  | tebi => (Nat.pow 2 40, 1)
  | pebi => (Nat.pow 2 50, 1)
  | exbi => (Nat.pow 2 60, 1)

/-- A scale as a double. -/
def factor (s : Scale) : Magnitude := .ofRatio s.ratio.1 s.ratio.2

end Scale

/-- Reads a quantity that is the whole of a text. -/
def ofChars? (cs : List Char) : Option Quantity :=
  let integer := cs.takeWhile Char.isDigit
  if integer.isEmpty then none
  else
    match cs.dropWhile Char.isDigit with
    | '.' :: rest =>
      let fraction := rest.takeWhile Char.isDigit
      if fraction.isEmpty then none
      else
        (Scale.ofSuffix? (rest.dropWhile Char.isDigit)).map fun scale =>
          ⟨Nat.ofDigitChars 10 (integer ++ fraction) 0, fraction.length, scale⟩
    | rest =>
      (Scale.ofSuffix? rest).map fun scale => ⟨Nat.ofDigitChars 10 integer 0, 0, scale⟩

/-- Reads a quantity with blanks around it. -/
def ofText? (s : String) : Option Quantity := ofChars? (Text.trimmed s.toList)

/-- The value of a quantity in base units, as a double. -/
def amount (q : Quantity) : Magnitude :=
  (Magnitude.ofRatio q.digits (Nat.pow 10 q.places)).mul q.scale.factor

/-- The amount that a text stands for, if it is a quantity. -/
def amount? (s : String) : Option Magnitude := (ofText? s).map amount

/-- Whether both texts are quantities, and the first is less than the second. -/
def isLess (s t : String) : Bool :=
  match amount? s, amount? t with
  | some a, some b => a.lt b
  | _, _ => false

end Quantity

end Nodewright
