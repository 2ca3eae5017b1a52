/-! # Punycode

A label of a domain name with characters beyond ASCII is written in ASCII: its basic characters,
a hyphen, and a digit string that says where the other characters go.

The other characters are taken in the order of their code points, and within one code point from
left to right. `gaps` lists, for each of them, how many places and code points are passed over
since the one before, and `encode` writes the gaps as numbers of varying length whose thresholds
adapt to the gaps seen. -/

namespace Nodewright.Url.Punycode

/-- The first code point that is not basic. -/
def firstBeyond : Nat := 0x80

/-- The threshold of the digit at a position, counted in steps of 36 from 36. -/
def threshold (bias position : Nat) : Nat := min 26 (max 1 (position - bias))

/-- A digit: letters stand for 0 to 25, figures for 26 to 35. -/
def digit (n : Nat) : Char := if n < 26 then Char.ofNat (0x61 + n) else Char.ofNat (0x16 + n)

/-- The value of a digit. -/
def digitValue? (c : Char) : Option Nat :=
  if 'a' ≤ c && c ≤ 'z' then some (c.toNat - 0x61)
  else if 'A' ≤ c && c ≤ 'Z' then some (c.toNat - 0x41)
  else if '0' ≤ c && c ≤ '9' then some (c.toNat - 0x16)
  else none

/-- Halves the scale of a gap until it is small; `fuel` bounds the steps. -/
def settle : Nat → Nat → Nat → Nat
  | 0, _, bias => bias
  | fuel + 1, gap, bias =>
    if 455 < gap then settle fuel (gap / 35) (bias + 36) else bias + 36 * gap / (gap + 38)

/-- The bias behind a gap, when so many characters are in place. The very first gap is damped
    more than the others. -/
def adapt (gap placed : Nat) (isFirst : Bool) : Nat :=
  let gap := if isFirst then gap / 700 else gap / 2
  settle 64 (gap + gap / placed) 0

/-- A number in digits of varying base; `fuel` exceeds the number of digits. -/
def digits (bias : Nat) : Nat → Nat → Nat → List Char
  | 0, _, _ => []
  | fuel + 1, position, n =>
    let t := threshold bias position
    if n < t then [digit n]
    else
      digit (t + (n - t) % (36 - t)) :: digits bias fuel (position + 36) ((n - t) / (36 - t))

/-- The gaps in front of the occurrences of one code point, given the gap so far, and the gap
    behind the last of them. -/
def gapsOf (point : Nat) : List Nat → Nat → List Nat × Nat
  | [], gap => ([], gap)
  | c :: rest, gap =>
    if c = point then
      let (gaps, last) := gapsOf point rest 0
      (gap :: gaps, last)
    else gapsOf point rest (if c < point then gap + 1 else gap)

/-- The gaps of the given code points, which are those beyond ASCII in increasing order. `next` is
    the least code point still possible, and `placed` counts the characters in place. -/
def gaps (label : List Nat) : List Nat → Nat → Nat → Nat → List Nat
  | [], _, _, _ => []
  | point :: rest, next, placed, gap =>
    let (here, last) := gapsOf point label (gap + (point - next) * (placed + 1))
    here ++ gaps label rest (point + 1) (placed + here.length) (last + 1)

/-- The gaps as digits. -/
def gapDigits (basic : Nat) : Nat → Nat → List Nat → List Char
  | _, _, [] => []
  | bias, placed, gap :: rest =>
    digits bias 64 36 gap ++
      gapDigits basic (adapt gap (placed + 1) (placed = basic)) (placed + 1) rest

/-- Puts a number in its place among increasing ones. -/
def insertPoint (n : Nat) : List Nat → List Nat
  | [] => [n]
  | m :: rest =>
    if n < m then n :: m :: rest else if n = m then m :: rest else m :: insertPoint n rest

/-- A label in ASCII. -/
def encode (label : List Char) : List Char :=
  let points := label.map Char.toNat
  let basic := label.filter fun c => c.toNat < firstBeyond
  let beyond := (points.filter fun n => firstBeyond ≤ n).foldr insertPoint []
  let start := if basic.isEmpty then [] else basic ++ ['-']
  start ++ gapDigits basic.length 72 basic.length (gaps points beyond firstBeyond basic.length 0)

/-- Reads a number in digits of varying base, and gives it with what follows. -/
def readGap (bias : Nat) : Nat → Nat → Nat → List Char → Option (Nat × List Char)
  | _, _, _, [] => none
  | position, weight, total, c :: rest =>
    match digitValue? c with
    | none => none
    | some d =>
      let t := threshold bias position
      if d < t then some (total + d * weight, rest)
      else readGap bias (position + 36) (weight * (36 - t)) (total + d * weight) rest

/-- Puts characters in their places, gap by gap; `fuel` exceeds the number of gaps. The last place
    and the last code point are where the next gap starts to count. -/
def place : Nat → Bool → Nat → Nat → Nat → List Char → List Char → Option (List Char)
  | 0, _, _, _, _, label, _ => some label
  | _ + 1, _, _, _, _, label, [] => some label
  | fuel + 1, isFirst, bias, index, point, label, cs =>
    match readGap bias 36 1 0 cs with
    | none => none
    | some (gap, rest) =>
      let size := label.length + 1
      let next := point + (index + gap) / size
      let here := (index + gap) % size
      if 0x10ffff < next || (0xd800 ≤ next && next ≤ 0xdfff) then none
      else
        place fuel false (adapt gap size isFirst) (here + 1) next
          (label.take here ++ Char.ofNat next :: label.drop here) rest

/-- The label of a text in ASCII, if it is the text of one. -/
def decode? (cs : List Char) : Option (List Char) :=
  let tail := (cs.reverse.takeWhile (· ≠ '-')).reverse
  let head := cs.take (cs.length - tail.length - 1)
  place (cs.length + 1) true 72 0 firstBeyond head tail

end Nodewright.Url.Punycode
