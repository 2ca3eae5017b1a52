import Nodewright.Proofs.Quantity.Value

/-!
# The order of quantities

Quantities are compared by their amounts, which are doubles, and so not always by their values. The
decimal is rounded first, and then its product with the scale. The comparison is right between
values that doubles hold, and between values that are far enough apart for rounding not to matter.

Close values may be confused, and in which direction depends on the suffixes. If both suffixes are
the same, or each is binary or missing, the values are rounded in the same way, and rounding keeps
the order: a smaller value may be taken for equal, but never an equal or larger one for smaller. A
decimal suffix beside another suffix, or beside none, is rounded differently, and then one of two
equal amounts may be taken for smaller: `2.3` is said to be less than `2300m`.

## Key results

- `JudgedByValue`: what a comparison by amounts has to do with the values
- `judgedByValue_isLess`: every comparison of two texts is judged so
-/

namespace Nodewright

open Binary64 (Magnitude IsDouble)

namespace Quantity

variable {q r : Quantity} {s t : String}

/-! ## How far two values are apart -/

/-- Doubles hold the decimal and the value of a quantity. -/
structure IsExact (q : Quantity) : Prop where
  decimal : IsDouble q.decimal
  value : IsDouble q.value

/-- Whole numbers with a binary suffix, or with none, need no rounding up to 53 bits. -/
theorem IsExact.of_whole {digits k : Nat} {scale : Scale} (hdigits : digits < 2 ^ 53)
    (hscale : scale.ratio = (2 ^ k, 1)) : IsExact ⟨digits, 0, scale⟩ := by
  -- the scale leaves room for 53 bits in the range of doubles
  have hk : k ≤ 971 := by
    have hle := scale.value_le
    rw [Scale.value, hscale, Nat.cast_one, div_one] at hle
    have hpow : 2 ^ k ≤ 2 ^ 60 := by exact_mod_cast hle
    exact ((Nat.pow_le_pow_iff_right (by decide)).1 hpow).trans (by decide)
  have hdecimal : Quantity.decimal ⟨digits, 0, scale⟩ = digits := by simp [Quantity.decimal]
  have hvalue : Quantity.value ⟨digits, 0, scale⟩ = digits * 2 ^ k := by
    simp [Quantity.value, hdecimal, Scale.value, hscale]
  constructor
  · simpa [hdecimal] using Binary64.isDouble_mul_two_pow (k := 0) hdigits (by decide)
  · exact hvalue ▸ Binary64.isDouble_mul_two_pow hdigits hk

/-- A quantity in the lower half of the range of doubles. -/
structure Moderate (q : Quantity) : Prop where
  decimal_lt : q.decimal < 2 ^ 1023
  value_lt : q.value < 2 ^ 1023

/-- A value is below another by more than rounding can hide. -/
structure ClearlyBelow (q r : Quantity) : Prop where
  moderate : q.Moderate
  gap : q.value * (1 + 1 / 2 ^ 50) + 1 / 2 ^ 1000 < r.value

/-- Two quantities that are not confused by rounding. -/
inductive Distinguishable (q r : Quantity) : Prop
  | exact (left : q.IsExact) (right : r.IsExact)
  | below (h : q.ClearlyBelow r)
  | above (h : r.ClearlyBelow q)

/-- Two quantities that are rounded in the same way. -/
inductive RoundedAlike (q r : Quantity) : Prop
  | suffix (h : q.scale = r.scale)
  | binary (left : q.BinaryNormal) (right : r.BinaryNormal)

/-- What it has to do with the values whether the first of two quantities is said to be below the
    second: it is right if rounding cannot confuse the two, and it is right in saying so if both
    are rounded in the same way. -/
structure JudgedByValue (q r : Quantity) (below : Prop) : Prop where
  iff_lt : q.Distinguishable r → (below ↔ q.value < r.value)
  lt : q.RoundedAlike r → below → q.value < r.value

/-- What is equivalent is judged alike. -/
theorem JudgedByValue.congr {below below' : Prop} (h : q.JudgedByValue r below)
    (hiff : below' ↔ below) : q.JudgedByValue r below' :=
  ⟨fun hapart => hiff.trans (h.iff_lt hapart), fun halike hbelow => h.lt halike (hiff.1 hbelow)⟩

/-! ## Amounts -/

theorem value_nonneg (q : Quantity) : 0 ≤ q.value :=
  mul_nonneg q.decimal_nonneg q.scale.value_pos.le

/-- What is clearly below is below. -/
theorem ClearlyBelow.value_lt (h : q.ClearlyBelow r) : q.value < r.value := by
  have hgap := h.gap
  have hnonneg := q.value_nonneg
  have htiny : (0 : ℚ) < 1 / 2 ^ 1000 := by positivity
  generalize (1 : ℚ) / 2 ^ 1000 = tiny at *
  linarith

/-- What is clearly below has a smaller amount. -/
theorem ClearlyBelow.amount_lt (h : q.ClearlyBelow r) : q.amount.lt r.amount = true := by
  obtain ⟨u, hu⟩ := exists_amount_eq h.moderate.decimal_lt h.moderate.value_lt
  rw [hu]
  -- an infinite amount is above every finite one
  cases hv : r.amount with
  | infinite => rfl
  | finite v =>
    have hone : (2 ^ 64 : ℚ) ≤ 1 / 2 ^ 1000 * Magnitude.one := by
      have : 2 ^ 64 * 2 ^ 1000 ≤ Magnitude.one := by decide +kernel
      rw [one_div_mul_eq_div, le_div_iff₀ (by positivity)]
      exact_mod_cast this
    have hunit : (0 : ℚ) < Magnitude.one := Nat.cast_pos.2 Magnitude.one_pos
    have hq := (abs_le.1 (abs_amount_sub_le hu)).2
    have hr := (abs_le.1 (abs_amount_sub_le hv)).1
    have hgap := mul_lt_mul_of_pos_right h.gap hunit
    have hnonneg := mul_nonneg q.value_nonneg hunit.le
    rw [add_mul] at hgap
    -- the gap is 16 parts in 2 ^ 54 of the smaller value, and rounding takes 5 from either side
    have hlt : (u : ℚ) < v := by
      generalize (1 : ℚ) / 2 ^ 1000 * Magnitude.one = tiny at *
      generalize (Magnitude.one : ℚ) = unit at *
      linarith
    exact decide_eq_true (Nat.cast_lt.1 hlt)

/-- Values that doubles hold are compared as they are. -/
theorem amount_lt_iff_of_isExact (hq : q.IsExact) (hr : r.IsExact) :
    q.amount.lt r.amount = true ↔ q.value < r.value := by
  obtain ⟨u, hu, huvalue⟩ := amount_eq_of_isDouble hq.decimal hq.value
  obtain ⟨v, hv, hvvalue⟩ := amount_eq_of_isDouble hr.decimal hr.value
  have hone : (0 : ℚ) < Magnitude.one := Nat.cast_pos.2 Magnitude.one_pos
  rw [hu, hv, huvalue, hvvalue, div_lt_div_iff_of_pos_right hone, Nat.cast_lt]
  exact decide_eq_true_iff

/-- Values that rounding cannot confuse are compared as they are. -/
theorem amount_lt_iff_of_distinguishable (h : q.Distinguishable r) :
    q.amount.lt r.amount = true ↔ q.value < r.value := by
  cases h with
  | exact hq hr => exact amount_lt_iff_of_isExact hq hr
  | below h => exact iff_of_true h.amount_lt h.value_lt
  | above h =>
    -- the second amount is the smaller one, so the first is not
    refine iff_of_false (fun hlt => ?_) h.value_lt.not_gt
    have hself := Magnitude.lt_trans hlt h.amount_lt
    rw [Magnitude.lt_irrefl] at hself
    cases hself

/-- Where both are rounded in the same way, a smaller amount has a smaller value. -/
theorem value_lt_of_roundedAlike (h : q.RoundedAlike r) (hlt : q.amount.lt r.amount = true) :
    q.value < r.value := by
  by_contra! hle
  -- rounding keeps the order, so it cannot turn around what is alike
  have hmono : q.amount.lt r.amount = false := by
    cases h with
    | suffix hscale =>
      rw [value, value, hscale] at hle
      exact amount_mono hscale.symm (le_of_mul_le_mul_right hle r.scale.value_pos)
    | binary hq hr => exact hr.amount_mono hq hle
  rw [hmono] at hlt
  cases hlt

/-! ## Texts -/

/-- Texts are compared by the amounts of their quantities. -/
theorem isLess_eq (hs : ofText? s = some q) (ht : ofText? t = some r) :
    isLess s t = q.amount.lt r.amount := by
  simp [isLess, amount?, hs, ht]

/-- Texts that are quantities are judged by their values, as far as rounding allows. -/
theorem judgedByValue_isLess (hs : ofText? s = some q) (ht : ofText? t = some r) :
    q.JudgedByValue r (isLess s t = true) := by
  rw [isLess_eq hs ht]
  exact ⟨amount_lt_iff_of_distinguishable, value_lt_of_roundedAlike⟩

example : isLess "1023.5Mi" "1Gi" = true ∧ isLess "500m" "0.5" = false := by decide +kernel

-- equal amounts whose roundings differ, so that the theorem says nothing of them
example : value ⟨23, 1, .one⟩ = value ⟨2300, 0, .milli⟩ ∧ isLess "2.3" "2300m" = true :=
  ⟨value_eq_iff.2 (by decide), by decide +kernel⟩

end Quantity

end Nodewright
