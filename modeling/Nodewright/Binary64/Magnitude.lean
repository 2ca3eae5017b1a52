/-! # Magnitudes of double-precision numbers

A finite double without its sign is a whole number of units of `2 ^ -1074`, the smallest positive
double, so it is kept as that natural number and all arithmetic on it is exact arithmetic followed
by one rounding.

* `nearestInteger`   rounding of a quotient, a half going to the even neighbour
* `Magnitude.ofRatio`   the double nearest to a quotient
* `Magnitude.mul`, `Magnitude.div`   product and quotient, rounded once
* `Magnitude.lt`   the order
* `Magnitude.bits`   the interchange encoding (sign bit clear) -/

namespace Nodewright.Binary64

/-- The integer nearest to `num / den`; a half goes to the even neighbour. -/
def nearestInteger (num den : Nat) : Nat :=
  let q := num / den
  let r := num % den
  if 2 * r < den then q
  else if den < 2 * r then q + 1
  else if q % 2 = 0 then q else q + 1

/-- A double without its sign. -/
inductive Magnitude where
  /-- So many units of `2 ^ -1074`. -/
  | finite (units : Nat)
  /-- Too large for a double. -/
  | infinite
deriving DecidableEq, Repr

namespace Magnitude

/-- The number of units in one. -/
def one : Nat := Nat.pow 2 1074

/-- The first number of units that no finite double reaches. -/
def overflow : Nat := Nat.pow 2 2098

/-- The double nearest to `num / den`: its significand has 53 bits, or fewer next to zero. -/
def ofRatio (num den : Nat) : Magnitude :=
  let scaled := num * one
  let exponent := (scaled / den).log2 - 52
  let units := nearestInteger scaled (den * Nat.pow 2 exponent) * Nat.pow 2 exponent
  if units < overflow then .finite units else .infinite

/-- The double nearest to a natural number. -/
def ofNat (n : Nat) : Magnitude := ofRatio n 1

/-- The product, rounded once. A factor beyond every double gives such a product. -/
def mul : Magnitude → Magnitude → Magnitude
  | finite a, finite b => ofRatio (a * b) (one * one)
  | _, _ => infinite

/-- The quotient by a positive finite number, rounded once. -/
def div : Magnitude → Magnitude → Magnitude
  | finite a, finite b => ofRatio a b
  | _, _ => infinite

/-- Whether the first number is below the second. -/
def lt : Magnitude → Magnitude → Bool
  | finite a, finite b => a < b
  | finite _, infinite => true
  | infinite, _ => false

/-- The interchange encoding: 11 bits of exponent and 52 bits of significand below a clear sign. -/
def bits : Magnitude → Nat
  | infinite => 0x7ff * Nat.pow 2 52
  | finite units =>
    if units < Nat.pow 2 52 then units
    else
      let exponent := units.log2 - 52
      (exponent + 1) * Nat.pow 2 52 + (units / Nat.pow 2 exponent - Nat.pow 2 52)

@[simp] theorem lt_irrefl (x : Magnitude) : x.lt x = false := by
  cases x <;> simp [lt]

theorem lt_trans {x y z : Magnitude} (hxy : x.lt y = true) (hyz : y.lt z = true) :
    x.lt z = true := by
  cases x <;> cases y <;> cases z <;> simp_all [lt]
  omega

end Magnitude

end Nodewright.Binary64
