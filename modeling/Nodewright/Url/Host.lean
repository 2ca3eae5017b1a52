import Nodewright.Url.DomainName
import Nodewright.Url.Percent

/-! # Hosts

The host of an address is a name or a number: an address of four bytes, which may be written in
several ways, or one of eight groups in brackets.

* `Host.ofDomain?`   the host of a special address
* `Host.ofOpaque?`   the host of any other address
* `Host.text`   a host in its canonical form -/

namespace Nodewright.Url

/-- The host of an address. -/
inductive Host where
  /-- A name, which may be empty. -/
  | name (s : String)
  /-- An address of four bytes, as one number. -/
  | four (address : Nat)
  /-- An address of eight groups of 16 bits. -/
  | six (groups : List Nat)
deriving DecidableEq, Repr

/-- The number that digits stand for, if all of them are digits of the base. -/
def number? (base : Nat) (digits : List Char) : Option Nat :=
  digits.foldl (fun total c =>
    match total, hexValue? c with
    | some n, some d => if d < base then some (n * base + d) else none
    | _, _ => none) (some 0)

namespace Host

/-- One part of an address of four bytes: hexadecimal behind `0x`, octal behind a zero, decimal
    otherwise. -/
def part? : List Char → Option Nat
  | [] => none
  | ['0'] => some 0
  | '0' :: x :: rest =>
    if x = 'x' || x = 'X' then number? 16 rest else number? 8 (x :: rest)
  | cs => number? 10 cs

/-- The parts of a name between its dots, of which the last may be empty. -/
def dotted (cs : List Char) : List (List Char) :=
  let parts := Text.parts '.' cs
  if parts.length ≠ 1 && parts.getLast? = some [] then parts.dropLast else parts

/-- Whether the last part of a name is a number, so that the name must be an address. -/
def endsInNumber (cs : List Char) : Bool :=
  match (dotted cs).getLast? with
  | some last => (!last.isEmpty && last.all Char.isDigit) || (part? last).isSome
  | none => false

/-- The address of its parts: the last one fills all the bytes that the others leave. -/
def addressOf? (parts : List Nat) : Option Nat :=
  match parts.getLast? with
  | none => none
  | some last =>
    let front := parts.dropLast
    if 4 < parts.length || front.any (255 < ·) || Nat.pow 256 (4 - front.length) ≤ last then none
    else
      some ((front.zipIdx.map fun (n, i) => n * Nat.pow 256 (3 - i)).foldr Nat.add 0 + last)

/-- Reads an address of four bytes. -/
def four? (cs : List Char) : Option Nat := do
  let parts ← (dotted cs).mapM part?
  addressOf? parts

/-- A decimal byte without a zero in front. -/
def byte? (cs : List Char) : Option Nat :=
  if cs.isEmpty || 3 < cs.length || (cs.length ≠ 1 && cs.head? = some '0') then none
  else
    match number? 10 cs with
    | some n => if n < 256 then some n else none
    | none => none

/-- The two groups of four decimal bytes with dots between them. -/
def bytesAsGroups? (cs : List Char) : Option (List Nat) :=
  match (Text.parts '.' cs).mapM byte? with
  | some [a, b, c, d] => some [a * 256 + b, c * 256 + d]
  | _ => none

/-- A group of one to four hexadecimal digits. -/
def group? (cs : List Char) : Option (List Nat) :=
  if cs.isEmpty || 4 < cs.length then none else (number? 16 cs).map ([·])

/-- Groups with colons between them. Behind the last colon four bytes may stand for two groups. -/
def groupsOf? (bytesMayEnd : Bool) : List (List Char) → Option (List Nat)
  | [] => some []
  | [last] => if bytesMayEnd && last.contains '.' then bytesAsGroups? last else group? last
  | cs :: rest => do return (← group? cs) ++ (← groupsOf? bytesMayEnd rest)

/-- Groups with colons between them, of which there may be none. -/
def groups? (bytesMayEnd : Bool) (cs : List Char) : Option (List Nat) :=
  if cs.isEmpty then some [] else groupsOf? bytesMayEnd (Text.parts ':' cs)

/-- A text before and behind its first double colon. -/
def aroundGap : List Char → Option (List Char × List Char)
  | ':' :: ':' :: rest => some ([], rest)
  | c :: rest => (aroundGap rest).map fun (before, behind) => (c :: before, behind)
  | [] => none

/-- Reads an address of eight groups, of which a double colon leaves out one or more zeros. -/
def six? (cs : List Char) : Option (List Nat) :=
  match aroundGap cs with
  | some (before, behind) => do
    let before ← groups? false before
    let behind ← groups? true behind
    if before.length + behind.length < 8 then
      some (before ++ List.replicate (8 - before.length - behind.length) 0 ++ behind)
    else none
  | none => do
    let groups ← groups? true cs
    if groups.length = 8 then some groups else none

/-- The text between brackets, if they are the first and the last character. -/
def bracketed? (cs : List Char) : Option (List Char) :=
  if cs.getLast? = some ']' then some ((cs.drop 1).dropLast) else none

/-- The host of a special address: an address in brackets, or a domain name, which is an address
    too if it ends in a number. -/
def ofDomain? (cs : List Char) : Option Host :=
  if cs.head? = some '[' then do return six (← six? (← bracketed? cs))
  else do
    let name ← asciiName? (← percentDecode? cs)
    if name.isEmpty then none
    else if endsInNumber name then return four (← four? name)
    else return Host.name (String.ofList name)

/-- The characters besides zero that no host of an address that is not special can hold. -/
def opaqueDelimiters : List Char :=
  ['\t', '\n', '\r', ' ', '#', '/', ':', '<', '>', '?', '@', '[', '\\', ']', '^', '|']

/-- Whether the host of an address that is not special can hold a character. -/
def isOpaqueChar (c : Char) : Bool := c.toNat ≠ 0 && !opaqueDelimiters.contains c

/-- The host of an address that is not special: an address in brackets, or any name. -/
def ofOpaque? (cs : List Char) : Option Host :=
  if cs.head? = some '[' then do return six (← six? (← bracketed? cs))
  else if cs.all isOpaqueChar then some (name (String.ofList (percentEncode .control cs)))
  else none

/-- The length of the run of zeros at the front. -/
def zeroRun : List Nat → Nat
  | 0 :: rest => zeroRun rest + 1
  | _ => 0

/-- Where the first of the longest runs of zeros starts, and its length. -/
def longestZeroRun : List Nat → Nat × Nat
  | [] => (0, 0)
  | n :: rest =>
    let (start, length) := longestZeroRun rest
    if length ≤ zeroRun (n :: rest) then (0, zeroRun (n :: rest)) else (start + 1, length)

/-- Groups in hexadecimal digits with colons between them. -/
def groupsText (groups : List Nat) : List Char := [':'].intercalate (groups.map (Nat.toDigits 16))

/-- Eight groups, with a double colon in place of the first longest run of two or more zeros. -/
def sixText (groups : List Nat) : List Char :=
  let (start, length) := longestZeroRun groups
  if length < 2 then groupsText groups
  else groupsText (groups.take start) ++ ':' :: ':' :: groupsText (groups.drop (start + length))

/-- Four bytes in decimal digits with dots between them. -/
def fourText (address : Nat) : List Char :=
  ['.'].intercalate ([3, 2, 1, 0].map fun i => Nat.toDigits 10 (address / Nat.pow 256 i % 256))

/-- A host in its canonical form. -/
def text : Host → String
  | name s => s
  | four address => String.ofList (fourText address)
  | six groups => String.ofList ('[' :: (sixText groups ++ [']']))

end Host

end Nodewright.Url
