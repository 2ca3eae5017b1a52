import Nodewright.Proofs.Binary64.Rounding
import Nodewright.Quantity

/-!
# Values and amounts

The value of a quantity is the rational number that it stands for. Its amount is what becomes of
the value in doubles, where the decimal is rounded, the scale is rounded, and so is their product.

## Key results

- `Quantity.value`: the decimal times the scale, with nothing rounded
- `value_le_iff`, `value_lt_iff`, `value_eq_iff`: values are compared as natural numbers
- `amount_eq_of_isDouble`: where doubles can hold everything, the amount is the value
- `abs_amount_sub_le`, `exists_amount_eq`: how far the amount is from the value otherwise
- `amount_mono`: with the same suffix, larger numbers have no smaller amounts
- `amount_eq_ofRatio`: with a binary suffix, the amount is the value rounded once
-/

namespace Nodewright

open Binary64 (Magnitude)

namespace Quantity

open Binary64 (IsDouble)
open Binary64.Magnitude

variable {q r : Quantity} {a b u : Nat}

/-! ## Values -/

/-- What a suffix multiplies by, with nothing rounded. -/
def Scale.value (s : Scale) : ℚ := s.ratio.1 / s.ratio.2

/-- The number in front of the suffix. -/
def decimal (q : Quantity) : ℚ := q.digits / 10 ^ q.places

/-- The value of a quantity in base units, with nothing rounded. -/
def value (q : Quantity) : ℚ := q.decimal * q.scale.value

namespace Scale

/-- The denominator of a scale is positive. -/
theorem ratio_snd_pos (s : Scale) : 0 < s.ratio.2 := by
  cases s <;> decide

/-- All scales but the thousandth are whole numbers, and doubles hold them. -/
theorem factor_eq_of_ne_milli {s : Scale} (h : s ≠ .milli) :
    s.factor = .finite (s.ratio.1 * Magnitude.one) ∧ s.ratio.2 = 1 := by
  cases s <;> first | exact absurd rfl h | decide +kernel

/-- As a double a scale is as it is, but for the thousandth, which is a little too large. -/
theorem exists_factor_eq (s : Scale) :
    ∃ b, s.factor = .finite b ∧ s.ratio.1 * Magnitude.one ≤ b * s.ratio.2 ∧
      2 ^ 57 * (b * s.ratio.2) ≤ (2 ^ 57 + 3) * (s.ratio.1 * Magnitude.one) := by
  -- the double next to a thousandth is given in units, and the other scales are exact
  rcases eq_or_ne s .milli with rfl | hs
  · exact ⟨1152921504606847 * 2 ^ 1014, by decide +kernel, by decide +kernel, by decide +kernel⟩
  · obtain ⟨hfactor, hratio⟩ := factor_eq_of_ne_milli hs
    rw [hratio]
    exact ⟨_, hfactor, by omega, by omega⟩

/-- The same of the double that a scale is known to have. -/
theorem factor_units {s : Scale} (h : s.factor = .finite b) :
    s.ratio.1 * Magnitude.one ≤ b * s.ratio.2 ∧
      2 ^ 57 * (b * s.ratio.2) ≤ (2 ^ 57 + 3) * (s.ratio.1 * Magnitude.one) := by
  obtain ⟨b', hb', hunits⟩ := s.exists_factor_eq
  obtain rfl : b' = b := Magnitude.finite.inj (hb'.symm.trans h)
  exact hunits

/-- No suffix makes nothing of a number. -/
theorem value_pos (s : Scale) : 0 < s.value := by
  cases s <;> norm_num [value, ratio]

/-- The largest scale is an exbibyte. -/
theorem value_le (s : Scale) : s.value ≤ 2 ^ 60 := by
  cases s <;> norm_num [value, ratio]

/-- How far the scale as a double is from the scale. -/
theorem factor_near {s : Scale} (h : s.factor = .finite b) :
    s.value * Magnitude.one ≤ b ∧ b ≤ s.value * Magnitude.one * (1 + 3 / 2 ^ 57) := by
  obtain ⟨hle, hge⟩ := factor_units h
  have hpos : (0 : ℚ) < s.ratio.2 := Nat.cast_pos.2 s.ratio_snd_pos
  have hleQ : (s.ratio.1 : ℚ) * Magnitude.one ≤ b * s.ratio.2 := by exact_mod_cast hle
  have hgeQ : (2 : ℚ) ^ 57 * (b * s.ratio.2) ≤ (2 ^ 57 + 3) * (s.ratio.1 * Magnitude.one) := by
    exact_mod_cast hge
  rw [value, div_mul_eq_mul_div]
  refine ⟨(div_le_iff₀ hpos).2 hleQ, ?_⟩
  rw [div_mul_eq_mul_div, le_div_iff₀ hpos]
  linarith

end Scale

/-! ## Comparing values -/

theorem pow_places_pos (q : Quantity) : 0 < Nat.pow 10 q.places := Nat.pow_pos (by decide)

/-- The numerator of the value, where that is written as one fraction. -/
def numerator (q : Quantity) : Nat := q.digits * q.scale.ratio.1

/-- The denominator of the value. -/
def denominator (q : Quantity) : Nat := Nat.pow 10 q.places * q.scale.ratio.2

theorem denominator_pos (q : Quantity) : 0 < q.denominator :=
  Nat.mul_pos q.pow_places_pos q.scale.ratio_snd_pos

/-- The decimal and the scale make one fraction. -/
theorem value_eq_div (q : Quantity) : q.value = q.numerator / q.denominator := by
  rw [value, decimal, Scale.value, div_mul_div_comm, numerator, denominator, Nat.pow_eq]
  push_cast
  rfl

/-- Values are compared as natural numbers, over one denominator. -/
theorem value_le_iff :
    q.value ≤ r.value ↔ q.numerator * r.denominator ≤ r.numerator * q.denominator := by
  have hq : (0 : ℚ) < q.denominator := Nat.cast_pos.2 q.denominator_pos
  have hr : (0 : ℚ) < r.denominator := Nat.cast_pos.2 r.denominator_pos
  rw [value_eq_div, value_eq_div, div_le_div_iff₀ hq hr]
  exact_mod_cast Iff.rfl

theorem value_lt_iff :
    q.value < r.value ↔ q.numerator * r.denominator < r.numerator * q.denominator := by
  rw [← not_le, value_le_iff, not_le]

/-- Values are the same if the one fraction can be turned into the other. -/
theorem value_eq_iff :
    q.value = r.value ↔ q.numerator * r.denominator = r.numerator * q.denominator := by
  rw [le_antisymm_iff, value_le_iff, value_le_iff, le_antisymm_iff]

/-! ## Rounding -/

theorem decimal_nonneg (q : Quantity) : 0 ≤ q.decimal := by
  unfold decimal
  positivity

/-- The decimal in units, as it is rounded. -/
theorem decimal_mul_one (q : Quantity) :
    (q.digits * one / (Nat.pow 10 q.places : Nat) : ℚ) = q.decimal * one := by
  rw [decimal, div_mul_eq_mul_div, Nat.pow_eq, Nat.cast_pow, Nat.cast_ofNat]

/-- How far a product is off whose factors have been rounded. -/
theorem abs_product_sub_le {unit decimal scale a b : ℚ} (hunit : 0 < unit)
    (hdecimal : 0 ≤ decimal) (hscale : 0 < scale) (hscale_le : scale ≤ 2 ^ 60) (ha0 : 0 ≤ a)
    (ha : |a - decimal * unit| ≤ decimal * unit / 2 ^ 53 + 1 / 2)
    (hb : scale * unit ≤ b ∧ b ≤ scale * unit * (1 + 3 / 2 ^ 57)) :
    |a * b / unit - decimal * scale * unit| ≤ decimal * scale * unit * (5 / 2 ^ 55) + 2 ^ 60 := by
  -- the rounded scale is taken without its unit, so that the unit cancels out
  obtain ⟨f, rfl⟩ : ∃ f, b = f * unit := ⟨b / unit, (div_mul_cancel₀ b hunit.ne').symm⟩
  have hf : scale ≤ f := le_of_mul_le_mul_right hb.1 hunit
  have hf' : f ≤ scale * (1 + 3 / 2 ^ 57) := by
    refine le_of_mul_le_mul_right ?_ hunit
    linarith [hb.2]
  rw [abs_le] at ha
  rw [← mul_assoc, mul_div_cancel_right₀ _ hunit.ne', abs_le]
  have hvalue : 0 ≤ decimal * scale * unit := by positivity
  -- both bounds are products of bounds, since nothing here is negative
  have hupper : a * f ≤
      (decimal * unit * (1 + 1 / 2 ^ 53) + 1 / 2) * (scale * (1 + 3 / 2 ^ 57)) :=
    mul_le_mul (by linarith) hf' (hscale.le.trans hf) (by positivity)
  have hlower : (decimal * unit * (1 - 1 / 2 ^ 53) - 1 / 2) * scale ≤ a * f :=
    (mul_le_mul_of_nonneg_right (by linarith) hscale.le).trans (mul_le_mul_of_nonneg_left hf ha0)
  constructor <;> linarith

/-- The product of the rounded decimal and the rounded scale is near to the value. -/
theorem abs_product_units_sub_le (ha : ofRatio q.digits (Nat.pow 10 q.places) = .finite a)
    (hb : q.scale.factor = .finite b) :
    |(a * b / one : ℚ) - q.value * one| ≤ q.value * one * (5 / 2 ^ 55) + 2 ^ 60 := by
  have ha' := abs_sub_le_of_ofRatio_eq q.pow_places_pos ha
  rw [decimal_mul_one] at ha'
  exact abs_product_sub_le (Nat.cast_pos.2 Magnitude.one_pos) q.decimal_nonneg q.scale.value_pos
    q.scale.value_le a.cast_nonneg ha' (Scale.factor_near hb)

/-- The product of two doubles, each counted in units, is counted in units again. -/
theorem product_div (a b : Nat) :
    ((a * b : Nat) / (one * one : Nat) : ℚ) = a * b / one / one := by
  rw [Nat.cast_mul, Nat.cast_mul, div_div]

/-- A finite amount is near to the value. -/
theorem abs_amount_sub_le (h : q.amount = .finite u) :
    |u - q.value * one| ≤ q.value * one * (5 / 2 ^ 54) + 2 ^ 61 := by
  obtain ⟨a, b, ha, hb, hu⟩ := exists_of_mul_eq h
  have hone : (0 : ℚ) < one := Nat.cast_pos.2 Magnitude.one_pos
  have hsquare := Nat.mul_pos Magnitude.one_pos Magnitude.one_pos
  have hvalue : 0 ≤ q.value * one :=
    mul_nonneg (mul_nonneg q.decimal_nonneg q.scale.value_pos.le) hone.le
  have hproduct := abs_product_units_sub_le ha hb
  have hround := abs_sub_le_of_ofRatio_eq hsquare hu
  -- what the product is off and what its rounding is off add up
  rw [mul_div_right_comm, product_div, div_mul_cancel₀ _ hone.ne'] at hround
  rw [abs_le] at hproduct hround ⊢
  constructor <;> linarith

/-- Quantities in the middle of the range of doubles have a finite amount. -/
theorem exists_amount_eq (hdecimal : q.decimal < 2 ^ 1023) (hvalue : q.value < 2 ^ 1023) :
    ∃ u, q.amount = .finite u := by
  have hone : (2 ^ 60 : ℚ) ≤ one := by
    have : 2 ^ 60 ≤ one := by decide +kernel
    exact_mod_cast this
  have hlarge : (2 ^ 2 : ℚ) ≤ 2 ^ 1023 := pow_le_pow_right₀ one_le_two (by decide)
  have hsquare := Nat.mul_pos Magnitude.one_pos Magnitude.one_pos
  obtain ⟨b, hb, -⟩ := q.scale.exists_factor_eq
  obtain ⟨a, ha⟩ : ∃ a, ofRatio q.digits (Nat.pow 10 q.places) = .finite a := by
    refine exists_ofRatio_eq q.pow_places_pos ?_
    rw [Nat.pow_eq, Nat.cast_pow, Nat.cast_ofNat, ← decimal]
    exact hdecimal.le.trans (le_mul_of_one_le_right (by positivity) (by norm_num))
  have hproduct := (abs_le.1 (abs_product_units_sub_le ha hb)).2
  obtain ⟨u, hu⟩ : ∃ u, ofRatio (a * b) (one * one) = .finite u := by
    refine exists_ofRatio_eq hsquare ?_
    -- the product may be a little above the value, which the last quarter of the range is for
    rw [product_div]
    generalize (2 : ℚ) ^ 1023 = limit at *
    generalize (one : ℚ) = unit at *
    rw [div_le_iff₀ (by linarith)]
    have hscaled : q.value * unit ≤ limit * unit := by gcongr
    have hfour : 2 ^ 2 * unit ≤ limit * unit := by gcongr
    linarith
  exact ⟨u, by rw [amount, ha, hb, mul, hu]⟩

/-! ## Values that doubles hold -/

/-- A double times the scale as a double is rounded to the value, if that is a double. The
    thousandth is so near to its double that the quarter of a place suffices. -/
theorem ofRatio_mul_factor {s : Scale} (hb : s.factor = .finite b) (hu : Fits u)
    (h : a * s.ratio.1 = u * s.ratio.2) : ofRatio (a * b) (one * one) = .finite u := by
  obtain ⟨hb_ge, hb_le⟩ := Scale.factor_units hb
  have hge : u * one ≤ a * b := by
    refine Nat.le_of_mul_le_mul_right ?_ s.ratio_snd_pos
    calc u * one * s.ratio.2
        = a * (s.ratio.1 * one) := by rw [Nat.mul_right_comm, ← h, Nat.mul_assoc]
      _ ≤ a * (b * s.ratio.2) := Nat.mul_le_mul_left a hb_ge
      _ = a * b * s.ratio.2 := (Nat.mul_assoc ..).symm
  have hle : 2 ^ 57 * (a * b) ≤ (2 ^ 57 + 3) * (u * one) := by
    refine Nat.le_of_mul_le_mul_right ?_ s.ratio_snd_pos
    calc 2 ^ 57 * (a * b) * s.ratio.2
        = a * (2 ^ 57 * (b * s.ratio.2)) := by ring
      _ ≤ a * ((2 ^ 57 + 3) * (s.ratio.1 * one)) := Nat.mul_le_mul_left a hb_le
      _ = (2 ^ 57 + 3) * (a * s.ratio.1 * one) := by ring
      _ = (2 ^ 57 + 3) * (u * one) * s.ratio.2 := by rw [h]; ring
  have hquarter : 2 ^ 55 * (a * b) ≤ (2 ^ 55 + 1) * (u * one) := by omega
  refine ofRatio_of_near (Nat.mul_pos Magnitude.one_pos Magnitude.one_pos) hu ?_ ?_
  · rw [← Nat.mul_assoc]
    exact Nat.mul_le_mul_right one hge
  · simpa only [Nat.mul_assoc] using Nat.mul_le_mul_right one hquarter

/-- Where neither the decimal nor the value needs rounding, nothing is lost, even though the
    thousandth is rounded. -/
theorem amount_eq_of_isDouble (hdecimal : IsDouble q.decimal) (hvalue : IsDouble q.value) :
    ∃ u, q.amount = .finite u ∧ q.value = u / one := by
  obtain ⟨a, hafits, ha⟩ := hdecimal
  obtain ⟨u, hufits, hu⟩ := hvalue
  refine ⟨u, ?_, hu⟩
  have hone : (0 : ℚ) < one := Nat.cast_pos.2 Magnitude.one_pos
  -- what the two doubles say of the rational numbers, as equations between natural numbers
  have hdigits : a * Nat.pow 10 q.places = q.digits * one := by
    rw [decimal, div_eq_div_iff (by positivity) hone.ne'] at ha
    exact_mod_cast ha.symm
  have hunits : a * q.scale.ratio.1 = u * q.scale.ratio.2 := by
    have hden : (0 : ℚ) < one * q.scale.ratio.2 :=
      mul_pos hone (Nat.cast_pos.2 q.scale.ratio_snd_pos)
    rw [value, ha, Scale.value, div_mul_div_comm, div_eq_div_iff hden.ne' hone.ne',
      mul_comm (one : ℚ) q.scale.ratio.2, ← mul_assoc] at hu
    exact_mod_cast mul_right_cancel₀ hone.ne' hu
  obtain ⟨b, hb, -⟩ := q.scale.exists_factor_eq
  rw [amount, ofRatio_of_exact q.pow_places_pos hafits hdigits, hb, mul,
    ofRatio_mul_factor hb hufits hunits]

/-! ## Values that are rounded alike -/

/-- With the same suffix, a larger number has no smaller amount. -/
theorem amount_mono (hscale : q.scale = r.scale) (h : q.decimal ≤ r.decimal) :
    r.amount.lt q.amount = false := by
  have hdigits : q.digits * Nat.pow 10 r.places ≤ r.digits * Nat.pow 10 q.places := by
    -- as natural numbers, the digits are compared over one denominator
    rw [decimal, decimal, div_le_div_iff₀ (by positivity) (by positivity)] at h
    exact_mod_cast h
  rw [amount, amount, hscale]
  exact mul_mono _ (ofRatio_mono q.pow_places_pos r.pow_places_pos hdigits)

/-- Quantities whose decimal is all that needs rounding: the suffix is binary, or there is none,
    and the decimal is not so small that doubles have fewer than 53 bits for it. -/
structure BinaryNormal (q : Quantity) : Prop where
  binary : ∃ k, q.scale.ratio = (2 ^ k, 1)
  normal : q.decimal = 0 ∨ 1 / 2 ^ 1022 ≤ q.decimal

/-- With a binary suffix, the amount is the value rounded once. -/
theorem amount_eq_ofRatio {k : Nat} (hk : q.scale.ratio = (2 ^ k, 1))
    (hnormal : q.decimal = 0 ∨ 1 / 2 ^ 1022 ≤ q.decimal) :
    q.amount = ofRatio (q.digits * 2 ^ k) (Nat.pow 10 q.places) := by
  -- the thousandth is the only scale that is no double
  have hmilli : q.scale ≠ .milli := by
    intro h
    rw [h] at hk
    exact nomatch (Prod.mk.inj hk).2
  have hfactor := (Scale.factor_eq_of_ne_milli hmilli).1
  rw [hk] at hfactor
  rw [amount, hfactor]
  refine ofRatio_mul_two_pow k q.pow_places_pos ?_
  have hpow : (0 : ℚ) < 10 ^ q.places := by positivity
  refine hnormal.imp (fun h => ?_) (fun h => ?_)
  · rw [decimal, div_eq_zero_iff, or_iff_left hpow.ne'] at h
    exact_mod_cast h
  · have hone : one = 2 ^ 1022 * 2 ^ 52 := by decide +kernel
    rw [decimal, div_le_div_iff₀ (by positivity) hpow, one_mul] at h
    have hdigits : Nat.pow 10 q.places ≤ q.digits * 2 ^ 1022 := by exact_mod_cast h
    rw [hone, ← Nat.mul_assoc, Nat.mul_comm]
    exact Nat.mul_le_mul_right _ hdigits

/-- Among quantities with binary suffixes, larger values have no smaller amounts. -/
theorem BinaryNormal.amount_mono (hq : q.BinaryNormal) (hr : r.BinaryNormal)
    (h : q.value ≤ r.value) : r.amount.lt q.amount = false := by
  obtain ⟨k, hk⟩ := hq.binary
  obtain ⟨j, hj⟩ := hr.binary
  -- the denominators of binary scales are 1
  have hdigits :
      q.digits * 2 ^ k * Nat.pow 10 r.places ≤ r.digits * 2 ^ j * Nat.pow 10 q.places := by
    simpa [numerator, denominator, hk, hj] using value_le_iff.1 h
  rw [amount_eq_ofRatio hk hq.normal, amount_eq_ofRatio hj hr.normal]
  exact ofRatio_mono q.pow_places_pos r.pow_places_pos hdigits

end Quantity

end Nodewright
