import Nodewright.Json.Basic
import Nodewright.Binary64.Magnitude

/-! # Reading JSON text

A reader takes the rest of a text and gives back a result with what follows it, or a failure that
knows how much of the text was left, from which its line and column are computed.

* `foldItems`, `foldEntries`   hand the items of an array, or the entries of an object, one after
  the other to a step, so that a consumer may refuse one before the rest is looked at
* `value`   a value whose containers are nested no deeper than the given number
* `outlineAt`   what a consumer sees before it decides what to read
* `skip`   passes over a value that nobody asked for
* `read?`   the value of a whole text
* `Failure.position`   where a failure stands -/

namespace Nodewright.Json

/-- How a text fails to be JSON. -/
inductive Problem where
  | endInArray
  | endInObject
  | endInString
  | endInValue
  | expectedColon
  | expectedArrayComma
  | expectedObjectComma
  | expectedName
  | expectedValue
  | badEscape
  | badNumber
  | numberTooLarge
  | controlInString
  | keyNotString
  | loneSurrogate
  | trailingComma
  | trailingText
  | nestedTooDeep
deriving DecidableEq, Repr

/-- The wording of a problem. -/
def Problem.message : Problem → String
  | endInArray => "EOF while parsing a list"
  | endInObject => "EOF while parsing an object"
  | endInString => "EOF while parsing a string"
  | endInValue => "EOF while parsing a value"
  | expectedColon => "expected \x60:\x60"
  | expectedArrayComma => "expected \x60,\x60 or \x60]\x60"
  | expectedObjectComma => "expected \x60,\x60 or \x60\x7d\x60"
  | expectedName => "expected ident"
  | expectedValue => "expected value"
  | badEscape => "invalid escape"
  | badNumber => "invalid number"
  | numberTooLarge => "number out of range"
  | controlInString => "control character (\\u0000-\\u001F) found while parsing a string"
  | keyNotString => "key must be a string"
  | loneSurrogate => "lone leading surrogate in hex escape"
  | trailingComma => "trailing comma"
  | trailingText => "trailing characters"
  | nestedTooDeep => "recursion limit exceeded"

/-- Why reading stopped: the text is not JSON, or its consumer refused a part of it. -/
inductive Cause (ε : Type) where
  | problem (p : Problem)
  | refused (e : ε)

/-- A failure, with what was left of the text. -/
structure Failure (ε : Type) where
  rest : List Char
  cause : Cause ε

/-- What a reader gives: a result and the rest of the text, or a failure. -/
abbrev Reading (ε α : Type) := Except (Failure ε) (α × List Char)

variable {ε σ : Type}

/-- Stops because the text is not JSON. -/
def fail {α : Type} (p : Problem) (rest : List Char) : Reading ε α := .error ⟨rest, .problem p⟩

/-- Stops because the consumer refuses what was read. -/
def refuse {α : Type} (e : ε) (rest : List Char) : Reading ε α := .error ⟨rest, .refused e⟩

/-- Goes on with the rest of the text. -/
def Reading.andThen {α β : Type} (r : Reading ε α) (next : α → List Char → Reading ε β) :
    Reading ε β :=
  match r with
  | .ok (a, rest) => next a rest
  | .error e => .error e

/-- Changes the result, and reads nothing more. -/
def Reading.as {α β : Type} (r : Reading ε α) (f : α → β) : Reading ε β :=
  r.andThen fun a rest => .ok (f a, rest)

/-- The blanks of JSON. -/
def isBlank (c : Char) : Bool := c = ' ' || c = '\n' || c = '\t' || c = '\r'

/-- The text behind its leading blanks. -/
def skipBlanks (src : List Char) : List Char := src.dropWhile isBlank

/-- The value of a hexadecimal digit. -/
def hexValue? (c : Char) : Option Nat :=
  if '0' ≤ c && c ≤ '9' then some (c.toNat - 0x30)
  else if 'a' ≤ c && c ≤ 'f' then some (c.toNat - 0x57)
  else if 'A' ≤ c && c ≤ 'F' then some (c.toNat - 0x37)
  else none

/-- The number of four hexadecimal digits. -/
def codeUnit? (a b c d : Char) : Option Nat := do
  return (← hexValue? a) * 4096 + (← hexValue? b) * 256 + (← hexValue? c) * 16 + (← hexValue? d)

/-- The character of an escape of one letter. -/
def shortEscape? (c : Char) : Option Char :=
  if c = '"' || c = '\\' || c = '/' then some c
  else if c = 'b' then some '\x08'
  else if c = 'f' then some '\x0c'
  else if c = 'n' then some '\n'
  else if c = 'r' then some '\r'
  else if c = 't' then some '\t'
  else none

/-- The character behind a reverse stroke. A character beyond the first 65536 is written as two
    code units, of which neither may stand alone. -/
def escape : List Char → Reading ε Char
  | 'u' :: a :: b :: c :: d :: rest =>
    match codeUnit? a b c d with
    | none => fail .badEscape rest
    | some high =>
      if high < 0xd800 || 0xdfff < high then .ok (Char.ofNat high, rest)
      else if 0xdc00 ≤ high then fail .loneSurrogate rest
      else
        match rest with
        | '\\' :: 'u' :: e :: f :: g :: h :: rest =>
          match codeUnit? e f g h with
          | none => fail .badEscape rest
          | some low =>
            if 0xdc00 ≤ low && low ≤ 0xdfff then
              .ok (Char.ofNat (0x10000 + (high - 0xd800) * 0x400 + (low - 0xdc00)), rest)
            else fail .loneSurrogate rest
        | rest => fail .loneSurrogate rest
  | 'u' :: _ => fail .endInString []
  | c :: rest =>
    match shortEscape? c with
    | some c => .ok (c, rest)
    | none => fail .badEscape rest
  | [] => fail .endInString []

/-- The characters of a string up to its closing quote; `fuel` exceeds the length of the text. -/
def stringBody : Nat → List Char → List Char → Reading ε String
  | 0, _, src => fail .endInString src
  | _ + 1, _, [] => fail .endInString []
  | fuel + 1, done, c :: rest =>
    if c = '"' then .ok (String.ofList done.reverse, rest)
    else if c = '\\' then
      match escape rest with
      | .ok (c, rest) => stringBody fuel (c :: done) rest
      | .error e => .error e
    else if c.toNat < 0x20 then fail .controlInString rest
    else stringBody fuel (c :: done) rest

/-- A string behind its opening quote. -/
def stringTail (src : List Char) : Reading ε String := stringBody (src.length + 1) [] src

/-- The values of decimal digits. -/
def digitValues (digits : List Char) : List Nat := digits.map fun c => c.toNat - 0x30

/-- The significand of 64 bits that takes up integer digits as long as they fit, and the number of
    digits that did not. -/
def takeInteger : List Nat → Nat → Nat × Nat
  | [], significand => (significand, 0)
  | d :: rest, significand =>
    if significand * 10 + d < Nat.pow 2 64 then takeInteger rest (significand * 10 + d)
    else (significand, rest.length + 1)

/-- The significand of 64 bits that takes up the digits of a fraction as long as they fit, and the
    number of digits taken. -/
def takeFraction : List Nat → Nat → Nat × Nat
  | [], significand => (significand, 0)
  | d :: rest, significand =>
    if significand * 10 + d < Nat.pow 2 64 then
      let (total, taken) := takeFraction rest (significand * 10 + d)
      (total, taken + 1)
    else (significand, 0)

/-- Divides by a power of ten, in steps that a double can hold; `fuel` bounds the steps. -/
def divideByTens : Nat → Binary64.Magnitude → Nat → Binary64.Magnitude
  | 0, m, _ => m
  | fuel + 1, m, tens =>
    if tens ≤ 308 then m.div (.ofNat (Nat.pow 10 tens))
    else divideByTens fuel (m.div (.ofNat (Nat.pow 10 308))) (tens - 308)

/-- The double of a significand and a power of ten, or none if it is too large. The significand
    and the power are rounded first, and then their product or quotient. -/
def scaled? (significand : Nat) (exponent : Int) : Option Nat :=
  if significand = 0 then some 0
  else if 308 < exponent then none
  else
    let m := Binary64.Magnitude.ofNat significand
    let result :=
      if 0 ≤ exponent then m.mul (.ofNat (Nat.pow 10 exponent.toNat))
      else divideByTens 4 m (-exponent).toNat
    match result with
    | .finite units => some units
    | .infinite => none

/-- The number of an integer part, a fraction and an exponent, of which the last two may be
    missing. An integer that fits in 64 bits stays one, except zero with a sign. -/
def Number.ofDigits? (isNegative : Bool) (integer : List Char) (fraction : Option (List Char))
    (exponent : Option Int) : Option Number :=
  let (significand, left) := takeInteger (digitValues integer) 0
  match fraction, exponent with
  | none, none =>
    if left = 0 && !isNegative then some (.natural (UInt64.ofNat significand))
    else if left = 0 && 0 < significand && significand ≤ Nat.pow 2 63 then
      some (.negative (UInt64.ofNat significand))
    else (scaled? significand left).map (.float isNegative)
  | _, _ =>
    let (significand, taken) := takeFraction (digitValues (fraction.getD [])) significand
    (scaled? significand (left - taken + exponent.getD 0)).map (.float isNegative)

/-- The fraction of a number, if the text goes on with a point: at least one digit. -/
def fractionPart : List Char → Reading ε (Option (List Char))
  | '.' :: src =>
    match src.takeWhile Char.isDigit with
    | [] => fail (if src = [] then .endInValue else .badNumber) (src.drop 1)
    | digits => .ok (some digits, src.dropWhile Char.isDigit)
  | src => .ok (none, src)

/-- The exponent of a number, if the text goes on with its letter: a sign if there is one, and at
    least one digit. -/
def exponentPart : List Char → Reading ε (Option Int)
  | c :: src =>
    if c = 'e' || c = 'E' then
      let (sign, src) : Int × List Char :=
        match src with
        | '-' :: src => (-1, src)
        | '+' :: src => (1, src)
        | src => (1, src)
      match src.takeWhile Char.isDigit with
      | [] => fail (if src = [] then .endInValue else .badNumber) (src.drop 1)
      | digits =>
        .ok (some (sign * (Nat.ofDigitChars 10 digits 0 : Nat)), src.dropWhile Char.isDigit)
    else .ok (none, c :: src)
  | [] => .ok (none, [])

/-- The parts of a number as they are written. -/
structure Numeral where
  isNegative : Bool
  integer : List Char
  fraction : Option (List Char)
  exponent : Option Int

/-- A number as it is written: a sign if it is negative, an integer part without a zero in front of
    other digits, and a fraction and an exponent if there are any. -/
def numeral (src : List Char) : Reading ε Numeral :=
  let (isNegative, src) : Bool × List Char :=
    match src with
    | '-' :: src => (true, src)
    | src => (false, src)
  let integer := src.takeWhile Char.isDigit
  let rest := src.dropWhile Char.isDigit
  if integer = [] then fail (if src = [] then .endInValue else .badNumber) (src.drop 1)
  else if integer.head? = some '0' && integer.length ≠ 1 then fail .badNumber rest
  else
    (fractionPart rest).andThen fun fraction rest =>
      (exponentPart rest).as fun exponent => ⟨isNegative, integer, fraction, exponent⟩

/-- A number. -/
def numberValue (src : List Char) : Reading ε Number :=
  (numeral src).andThen fun n rest =>
    match Number.ofDigits? n.isNegative n.integer n.fraction n.exponent with
    | some n => .ok (n, rest)
    | none => fail .numberTooLarge rest

/-- Hands the items of an array behind its bracket to `step`, up to the closing bracket. The flag
    says that a comma stands before the next item; `fuel` exceeds the length of the text. -/
def itemsLoop (step : σ → List Char → Reading ε σ) : Nat → Bool → σ → List Char → Reading ε σ
  | 0, _, _, src => fail .endInArray src
  | fuel + 1, behindComma, s, src =>
    match skipBlanks src with
    | [] => fail (if behindComma then .endInValue else .endInArray) []
    | ']' :: rest => if behindComma then fail .trailingComma rest else .ok (s, rest)
    | src =>
      match step s src with
      | .error e => .error e
      | .ok (s, src) =>
        match skipBlanks src with
        | [] => fail .endInArray []
        | ']' :: rest => .ok (s, rest)
        | ',' :: rest => itemsLoop step fuel true s rest
        | _ :: rest => fail .expectedArrayComma rest

/-- Hands the items of an array behind its bracket to `step`, one after the other. -/
def foldItems (step : σ → List Char → Reading ε σ) (s : σ) (src : List Char) : Reading ε σ :=
  itemsLoop step (src.length + 1) false s src

/-- Goes behind the colon of an entry, and the blanks around it. -/
def colon (src : List Char) : Reading ε Unit :=
  match skipBlanks src with
  | [] => fail .endInObject []
  | ':' :: rest => .ok ((), skipBlanks rest)
  | _ :: rest => fail .expectedColon rest

/-- Hands the entries of an object behind its bracket to `step`: the key, and the text behind it,
    which goes on with a colon and the value. The flag says that a comma stands before the next
    key; `fuel` exceeds the length of the text. -/
def entriesLoop (step : σ → String → List Char → Reading ε σ) :
    Nat → Bool → σ → List Char → Reading ε σ
  | 0, _, _, src => fail .endInObject src
  | fuel + 1, behindComma, s, src =>
    match skipBlanks src with
    | [] => fail (if behindComma then .endInValue else .endInObject) []
    | '}' :: rest => if behindComma then fail .trailingComma rest else .ok (s, rest)
    | '"' :: src =>
      match stringTail src with
      | .error e => .error e
      | .ok (key, src) =>
        match step s key src with
        | .error e => .error e
        | .ok (s, src) =>
          match skipBlanks src with
          | [] => fail .endInObject []
          | '}' :: rest => .ok (s, rest)
          | ',' :: rest => entriesLoop step fuel true s rest
          | _ :: rest => fail .expectedObjectComma rest
    | _ :: rest => fail .keyNotString rest

/-- Hands the entries of an object behind its bracket to `step`, one after the other. -/
def foldEntries (step : σ → String → List Char → Reading ε σ) (s : σ) (src : List Char) :
    Reading ε σ :=
  entriesLoop step (src.length + 1) false s src

/-- The word, if the text goes on with it. -/
def word (letters : List Char) (meaning : Json) (src : List Char) : Reading ε Json :=
  if letters.isPrefixOf src then .ok (meaning, src.drop letters.length)
  else fail (if src.isPrefixOf letters then .endInValue else .expectedName) src

/-- A value that is no container. -/
def scalar : List Char → Reading ε Json
  | [] => fail .endInValue []
  | '"' :: src => (stringTail src).as string
  | c :: src =>
    if c = 'n' then word ['n', 'u', 'l', 'l'] null (c :: src)
    else if c = 't' then word ['t', 'r', 'u', 'e'] (bool true) (c :: src)
    else if c = 'f' then word ['f', 'a', 'l', 's', 'e'] (bool false) (c :: src)
    else if c = '-' || c.isDigit then (numberValue (c :: src)).as number
    else fail .expectedValue src

/-- Adds an item read by `inner`. -/
def addItem (inner : List Char → Reading ε Json) (items : List Json) (src : List Char) :
    Reading ε (List Json) :=
  (inner src).as (· :: items)

/-- Adds an entry whose value is read by `inner`. -/
def addEntry (inner : List Char → Reading ε Json) (entries : List (String × Json)) (key : String)
    (src : List Char) : Reading ε (List (String × Json)) :=
  (colon src).andThen fun _ src => (inner src).as fun value => (key, value) :: entries

/-- A value behind blanks, with containers nested no deeper than `depth`. -/
def value : Nat → List Char → Reading ε Json
  | 0, src =>
    match skipBlanks src with
    | '[' :: rest => fail .nestedTooDeep rest
    | '{' :: rest => fail .nestedTooDeep rest
    | src => scalar src
  | depth + 1, src =>
    match skipBlanks src with
    | '[' :: src =>
      (foldItems (addItem (value depth)) [] src).as fun items => array items.reverse
    | '{' :: src =>
      (foldEntries (addEntry (value depth)) [] src).as fun entries => object entries.reverse
    | src => scalar src

/-- How deep containers may be nested. -/
def maxDepth : Nat := 127

/-- The outline of the value with which a text goes on, of which only a scalar is read. -/
def outlineAt (src : List Char) : Reading ε Outline :=
  match src with
  | '[' :: _ => .ok (.array, src)
  | '{' :: _ => .ok (.object, src)
  | src => (scalar src).as outline

/-- Passes over the rest of a string. Escapes need only be well formed by themselves. -/
def skipString : Nat → List Char → Reading ε Unit
  | 0, src => fail .endInString src
  | _ + 1, [] => fail .endInString []
  | fuel + 1, c :: rest =>
    if c = '"' then .ok ((), rest)
    else if c.toNat < 0x20 then fail .controlInString rest
    else if c = '\\' then
      match rest with
      | 'u' :: a :: b :: c :: d :: rest =>
        if (codeUnit? a b c d).isSome then skipString fuel rest else fail .badEscape rest
      | c :: rest => if (shortEscape? c).isSome then skipString fuel rest else fail .badEscape rest
      | [] => fail .endInString []
    else skipString fuel rest

/-- Passes over a value, of which numbers may be too large and containers nested deeply; `fuel`
    exceeds the length of the text. -/
def skip : Nat → List Char → Reading ε Unit
  | 0, src => fail .endInValue src
  | fuel + 1, src =>
    match skipBlanks src with
    | '[' :: rest => foldItems (fun _ => skip fuel) () rest
    | '{' :: rest =>
      foldEntries (fun _ _ src => (colon src).andThen fun _ src => skip fuel src) () rest
    | '"' :: rest => skipString (rest.length + 1) rest
    | c :: rest =>
      if c = '-' || c.isDigit then (numeral (c :: rest)).as fun _ => ()
      else (scalar (c :: rest)).as fun _ => ()
    | [] => fail .endInValue []

/-- A whole text: what `reader` reads behind blanks, and nothing but blanks behind it. -/
def whole {α : Type} (reader : List Char → Reading ε α) (src : List Char) :
    Except (Failure ε) α :=
  match reader (skipBlanks src) with
  | .error e => .error e
  | .ok (a, rest) =>
    match skipBlanks rest with
    | [] => .ok a
    | _ :: rest => .error ⟨rest, .problem .trailingText⟩

/-- The value of a text, if it is one. -/
def read? (text : String) : Option Json :=
  match (whole (value maxDepth) text.toList : Except (Failure Empty) Json) with
  | .ok v => some v
  | .error _ => none

/-- A place in a text: its line, counted from one, and the bytes before it on that line. -/
structure Position where
  line : Nat
  column : Nat
deriving DecidableEq, Repr

/-- The place behind a text. -/
def Position.after (text : List Char) : Position where
  line := text.count '\n' + 1
  column := ((text.reverse.takeWhile (· ≠ '\n')).map Char.utf8Size).foldr Nat.add 0

/-- Where a failure stands in the text that was read. -/
def Failure.position (f : Failure ε) (text : List Char) : Position :=
  .after (text.take (text.length - f.rest.length))

/-- The wording of a place behind a message. -/
def Position.suffix (p : Position) : String :=
  " at line " ++ toString p.line ++ " column " ++ toString p.column

end Nodewright.Json
