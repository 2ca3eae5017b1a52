import Nodewright.Binary64.Magnitude

/-! # The shortest decimal of a double

Of the decimals that read back as a given positive double, `shortest` is one with the fewest
digits, and of those the nearest. `Decimal.render` writes it with at least one digit on each side
of the point while its leading digit lies between the fifth place after the point and the
sixteenth before it, and with an exponent otherwise. -/

namespace Nodewright.Binary64

/-- The number `digits * 10 ^ exponent`. -/
structure Decimal where
  digits : Nat
  exponent : Int
deriving DecidableEq, Repr

namespace Decimal

/-- The same number without zeros at the end of its digits; `fuel` bounds how many are dropped. -/
def trimZeros : Nat → Decimal → Decimal
  | 0, d => d
  | fuel + 1, d =>
    if d.digits ≠ 0 && d.digits % 10 = 0 then trimZeros fuel ⟨d.digits / 10, d.exponent + 1⟩ else d

end Decimal

/-- The power of ten of the leading digit of so many units. -/
def leadingPlace (units : Nat) : Int :=
  ((Nat.toDigits 10 (units * Nat.pow 10 330 / Magnitude.one)).length : Int) - 331

/-- The decimals next to so many units, from below and from above, whose last digit stands at
    `10 ^ place`, each with its distance in quarters of a unit, scaled by `10 ^ -place` where that
    is below one. The flag says whether the decimal reads back as the same double. -/
def neighbours (units : Nat) (place : Int) : List (Bool × Nat × Nat) :=
  let exponent := units.log2 - 52
  let step := Nat.pow 2 exponent
  let above := 2 * step
  let below := if units = Nat.pow 2 (exponent + 52) ∧ exponent ≠ 0 then step else 2 * step
  let closed := (units / step) % 2 = 0
  -- quarters of a unit per last digit, as a quotient
  let grid := if 0 ≤ place then 4 * Magnitude.one * Nat.pow 10 place.toNat else 4 * Magnitude.one
  let scale := if 0 ≤ place then 1 else Nat.pow 10 (-place).toNat
  let value := 4 * units * scale
  let low := value / grid
  let reads (distance bound : Nat) : Bool :=
    if closed then distance ≤ bound * scale else distance < bound * scale
  let down := value - low * grid
  let up := (low + 1) * grid - value
  [(low ≠ 0 && reads down below, down, low), (reads up above, up, low + 1)]

/-- The shortest decimal that reads back as so many units (a positive number of them). -/
def shortest (units : Nat) : Decimal :=
  let lead := leadingPlace units
  let ofLength (n : Nat) : Option Decimal :=
    let place := lead - (n : Int) + 1
    match neighbours units place with
    | [(true, down, low), (true, up, high)] =>
      some ⟨if down < up || (down = up && low % 2 = 0) then low else high, place⟩
    | [(true, _, low), _] => some ⟨low, place⟩
    | [_, (true, _, high)] => some ⟨high, place⟩
    | _ => none
  (((List.range 17).findSome? fun n => ofLength (n + 1)).getD ⟨0, 0⟩).trimZeros 400

/-- So many zeros. -/
def zeros (n : Nat) : List Char := List.replicate n '0'

/-- A positive decimal as text: positional while the leading digit stands at a power of ten from
    -5 to 15, and with a signed exponent otherwise. -/
def Decimal.render (d : Decimal) : String :=
  let digits := Nat.toDigits 10 d.digits
  let lead := d.exponent + digits.length - 1
  String.ofList <|
    if -5 ≤ lead && lead ≤ 15 then
      if 0 ≤ d.exponent then digits ++ zeros d.exponent.toNat ++ ['.', '0']
      else if 0 ≤ lead then
        digits.take (lead.toNat + 1) ++ '.' :: digits.drop (lead.toNat + 1)
      else '0' :: '.' :: (zeros ((-lead).toNat - 1) ++ digits)
    else
      let fraction := if digits.length = 1 then [] else '.' :: digits.drop 1
      let sign := if lead < 0 then '-' else '+'
      digits.take 1 ++ fraction ++ 'e' :: sign :: Nat.toDigits 10 lead.natAbs

/-- A finite double as text: its sign, and the shortest decimal that reads back as it. -/
def text (isNegative : Bool) (units : Nat) : String :=
  (if isNegative then "-" else "") ++ (if units = 0 then "0.0" else (shortest units).render)

end Nodewright.Binary64
