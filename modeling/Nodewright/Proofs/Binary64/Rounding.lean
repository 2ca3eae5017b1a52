import Mathlib.Algebra.Order.Field.Rat
import Mathlib.Data.Nat.Cast.Order.Field
import Mathlib.Data.Nat.Log
import Mathlib.Tactic.FieldSimp
import Mathlib.Tactic.GCongr
import Mathlib.Tactic.Linarith
import Mathlib.Tactic.Positivity
import Mathlib.Tactic.Ring
import Nodewright.Binary64.Magnitude

/-!
# Rounding to doubles

A quotient is rounded in two steps: its logarithm gives the place of the last bit, and then the
nearest multiple of that place is taken. So it is off by at most half a place, larger quotients are
not rounded to smaller doubles, and a quotient next to a double is rounded to it.

## Key results

- `abs_rounded_sub_le`: how far rounding goes, relative to the quotient
- `rounded_mono`, `Magnitude.ofRatio_mono`: rounding keeps the order
- `rounded_of_near`: what is rounded to a given double
- `rounded_mul_two_pow`: powers of two can be taken out of a quotient
-/

namespace Nodewright

namespace Binary64

variable {n n' d m k : Nat}

/-! ## The nearest integer -/

/-- The quotient is cut off or counted up, whichever is nearer. -/
theorem nearestInteger_cases (n d : Nat) :
    (nearestInteger n d = n / d ∧ 2 * (n % d) ≤ d) ∨
      (nearestInteger n d = n / d + 1 ∧ d ≤ 2 * (n % d)) := by
  simp only [nearestInteger]
  split_ifs <;> omega

/-- The nearest integer is above the quotient by at most a half. -/
theorem nearestInteger_mul_le (n d : Nat) : 2 * (nearestInteger n d * d) ≤ 2 * n + d := by
  -- the remainder says which of the two integers has been taken
  have hn := Nat.div_add_mod' n d
  rcases nearestInteger_cases n d with ⟨h, -⟩ | ⟨h, hhalf⟩ <;> rw [h]
  · omega
  · rw [Nat.succ_mul (n / d) d]
    omega

/-- And below it by at most a half. -/
theorem le_nearestInteger_mul (n : Nat) (hd : 0 < d) :
    2 * n ≤ 2 * (nearestInteger n d * d) + d := by
  have hn := Nat.div_add_mod' n d
  have hr := Nat.mod_lt n hd
  rcases nearestInteger_cases n d with ⟨h, hhalf⟩ | ⟨h, -⟩ <;> rw [h]
  · omega
  · rw [Nat.succ_mul (n / d) d]
    omega

/-- Larger numbers have no smaller nearest integer. -/
theorem nearestInteger_mono (hd : 0 < d) (h : n ≤ n') :
    nearestInteger n d ≤ nearestInteger n' d := by
  by_contra! hlt
  have hle := nearestInteger_mul_le n d
  have hge := le_nearestInteger_mul n' hd
  have hnext : nearestInteger n' d * d + d ≤ nearestInteger n d * d := by
    simpa [Nat.succ_mul] using Nat.mul_le_mul_right d hlt
  -- both are halves then, and so they are the same
  obtain rfl : n = n' := by omega
  exact lt_irrefl _ hlt

/-- A quotient may be extended by any factor. -/
theorem nearestInteger_mul_right (n d : Nat) {c : Nat} (hc : 0 < c) :
    nearestInteger (n * c) (d * c) = nearestInteger n d := by
  simp only [nearestInteger, Nat.mul_div_mul_right _ _ hc, Nat.mul_mod_mul_right,
    ← Nat.mul_assoc 2, Nat.mul_lt_mul_right hc]

theorem nearestInteger_mul_self (m : Nat) (hd : 0 < d) : nearestInteger (m * d) d = m := by
  simp [nearestInteger, hd]

/-- An integer below the quotient is not passed by rounding. -/
theorem le_nearestInteger (hd : 0 < d) (h : m * d ≤ n) : m ≤ nearestInteger n d := by
  simpa [nearestInteger_mul_self m hd] using nearestInteger_mono hd h

/-- Nor is one above it. -/
theorem nearestInteger_le (hd : 0 < d) (h : n ≤ m * d) : nearestInteger n d ≤ m := by
  simpa [nearestInteger_mul_self m hd] using nearestInteger_mono hd h

/-- What is above an integer by less than a half is rounded to it. -/
theorem nearestInteger_of_near (hd : 0 < d) (hle : m * d ≤ n) (hlt : 2 * n < 2 * (m * d) + d) :
    nearestInteger n d = m := by
  refine le_antisymm ?_ (le_nearestInteger hd hle)
  -- the next integer would be more than half a step away
  by_contra! hm
  have hnext : m * d + d ≤ nearestInteger n d * d := by
    simpa [Nat.succ_mul] using Nat.mul_le_mul_right d hm
  have := nearestInteger_mul_le n d
  omega

/-! ## The last place -/

/-- The exponent of the last place that a double has at a quotient. -/
def lastPlace (n d : Nat) : Nat := (n / d).log2 - 52

/-- A quotient rounded to its last place, where no overflow is looked for. -/
def rounded (n d : Nat) : Nat :=
  nearestInteger n (d * 2 ^ lastPlace n d) * 2 ^ lastPlace n d

/-- The significand of a double is below `2 ^ 53`. -/
theorem lt_lastPlace (n : Nat) (hd : 0 < d) : n < 2 ^ 53 * (d * 2 ^ lastPlace n d) := by
  have hlog : n / d < 2 ^ (53 + lastPlace n d) :=
    Nat.lt_log2_self.trans_le (Nat.pow_le_pow_right two_pos (by unfold lastPlace; omega))
  rw [Nat.div_lt_iff_lt_mul hd, Nat.pow_add] at hlog
  linarith

/-- The significand of a double is at least `2 ^ 52`, except next to zero. -/
theorem lastPlace_le (h : 0 < lastPlace n d) : 2 ^ 52 * (d * 2 ^ lastPlace n d) ≤ n := by
  -- a quotient below one has the last place of the units
  have hne : n / d ≠ 0 := by
    intro h0
    simp [lastPlace, h0] at h
  have hlog : 2 ^ (52 + lastPlace n d) ≤ n / d :=
    (Nat.pow_le_pow_right two_pos (by unfold lastPlace at h ⊢; omega)).trans (Nat.log2_self_le hne)
  have hn := (Nat.mul_le_mul_right d hlog).trans (Nat.div_mul_le_self n d)
  rw [Nat.pow_add] at hn
  linarith

/-- Larger quotients have no smaller last place. -/
theorem lastPlace_mono (h : n ≤ n') : lastPlace n d ≤ lastPlace n' d := by
  simp only [lastPlace, Nat.log2_eq_log_two]
  exact Nat.sub_le_sub_right (Nat.log_mono_right (Nat.div_le_div_right h)) 52

/-- The last place depends on the quotient alone. -/
theorem lastPlace_mul_right (n d : Nat) {c : Nat} (hc : 0 < c) :
    lastPlace (n * c) (d * c) = lastPlace n d := by
  simp only [lastPlace, Nat.mul_div_mul_right _ _ hc]

/-! ## Rounding to the last place -/

/-- So does what it is rounded to. -/
theorem rounded_mul_right (n d : Nat) {c : Nat} (hc : 0 < c) :
    rounded (n * c) (d * c) = rounded n d := by
  simp only [rounded, lastPlace_mul_right n d hc, Nat.mul_right_comm d c,
    nearestInteger_mul_right n _ hc]

/-- Larger quotients are not rounded to smaller doubles. -/
theorem rounded_mono (hd : 0 < d) (h : n ≤ n') : rounded n d ≤ rounded n' d := by
  have hpos : ∀ e, 0 < d * 2 ^ e := fun e => Nat.mul_pos hd (Nat.two_pow_pos e)
  rcases (lastPlace_mono h : lastPlace n d ≤ lastPlace n' d).eq_or_lt with heq | hlt
  · rw [rounded, rounded, heq]
    exact Nat.mul_le_mul_right _ (nearestInteger_mono (hpos _) h)
  · -- between the two lies a power of two, which is a double
    have hupper := nearestInteger_le (hpos _) (lt_lastPlace n hd).le
    have hlower := le_nearestInteger (hpos _) (lastPlace_le (pos_of_gt hlt))
    calc rounded n d
        ≤ 2 ^ 53 * 2 ^ lastPlace n d := Nat.mul_le_mul_right _ hupper
      _ = 2 ^ 52 * 2 ^ (lastPlace n d + 1) := by rw [Nat.pow_succ]; ring
      _ ≤ 2 ^ 52 * 2 ^ lastPlace n' d :=
        Nat.mul_le_mul_left _ (Nat.pow_le_pow_right two_pos hlt)
      _ ≤ rounded n' d := Nat.mul_le_mul_right _ hlower

/-- A rounded quotient has at most 53 significant bits. -/
theorem exists_significand_rounded (n : Nat) (hd : 0 < d) :
    ∃ m k, m < 2 ^ 53 ∧ rounded n d = m * 2 ^ k := by
  have hle : nearestInteger n (d * 2 ^ lastPlace n d) ≤ 2 ^ 53 :=
    nearestInteger_le (Nat.mul_pos hd (Nat.two_pow_pos _)) (lt_lastPlace n hd).le
  rcases hle.eq_or_lt with heq | hlt
  · -- counting up has carried over, so the significand ends in zero
    refine ⟨2 ^ 52, lastPlace n d + 1, by norm_num, ?_⟩
    rw [rounded, heq, Nat.pow_succ]
    ring
  · exact ⟨_, _, hlt, rfl⟩

/-- What is above a double by less than a quarter of its last place is rounded to it. -/
theorem rounded_of_near (hd : 0 < d) (hm : m < 2 ^ 53) (hle : m * 2 ^ k * d ≤ n)
    (hnear : 2 ^ 55 * n ≤ (2 ^ 55 + 1) * (m * 2 ^ k * d)) : rounded n d = m * 2 ^ k := by
  have hpos : 0 < d * 2 ^ lastPlace n d := Nat.mul_pos hd (Nat.two_pow_pos _)
  -- the double is a multiple of the last place, since its significand would be too long otherwise
  have hplace : lastPlace n d ≤ k := by
    by_contra! hlt
    have hpow : 2 ^ k * 2 ≤ 2 ^ lastPlace n d := by
      simpa [Nat.pow_succ] using Nat.pow_le_pow_right two_pos hlt
    have hn := lastPlace_le (pos_of_gt hlt)
    have hbits : 2 ^ 53 * (2 ^ k * d) ≤ n := by
      have := Nat.mul_le_mul_left (2 ^ 52 * d) hpow
      linarith
    have hshort : m * (2 ^ k * d) + 2 ^ k * d ≤ 2 ^ 53 * (2 ^ k * d) :=
      (Nat.succ_mul m _).symm.trans_le (Nat.mul_le_mul_right _ hm)
    have hpositive : 0 < 2 ^ k * d := Nat.mul_pos (Nat.two_pow_pos k) hd
    rw [Nat.mul_assoc] at hnear
    omega
  -- so it is one of the integers to choose from, and the quotient is next to it
  obtain ⟨j, rfl⟩ := Nat.exists_eq_add_of_le hplace
  generalize he : lastPlace n d = e at *
  have hmultiple : m * 2 ^ (e + j) * d = m * 2 ^ j * (d * 2 ^ e) := by rw [Nat.pow_add]; ring
  have hn := lt_lastPlace n hd
  rw [he] at hn
  rw [hmultiple] at hle hnear
  rw [rounded, he, nearestInteger_of_near hpos hle (by omega), Nat.pow_add]
  ring

/-- A quotient that is a double is not changed. -/
theorem rounded_of_exact (hd : 0 < d) (hm : m < 2 ^ 53) : rounded (m * 2 ^ k * d) d = m * 2 ^ k :=
  rounded_of_near hd hm le_rfl (by omega)

/-- Where a double has its 53 bits, a power of two moves the last place by as much. -/
theorem lastPlace_mul_two_pow (k : Nat) (hd : 0 < d) (h : 2 ^ 52 * d ≤ n) :
    lastPlace (n * 2 ^ k) d = lastPlace n d + k := by
  have hquot : 2 ^ 52 ≤ n / d := (Nat.le_div_iff_mul_le hd).2 h
  have hne : n / d ≠ 0 := by omega
  have hlog : 52 ≤ (n / d).log2 := (Nat.le_log2 hne).2 hquot
  have hlower := (Nat.le_div_iff_mul_le hd).1 (Nat.log2_self_le hne)
  have hupper := (Nat.div_lt_iff_lt_mul hd).1 (Nat.lt_log2_self (n := n / d))
  -- the logarithm of the product is found between two powers of two
  have hle : 2 ^ ((n / d).log2 + k) ≤ n * 2 ^ k / d := by
    rw [Nat.le_div_iff_mul_le hd, Nat.pow_add, Nat.mul_right_comm]
    exact Nat.mul_le_mul_right _ hlower
  have hlt : n * 2 ^ k / d < 2 ^ ((n / d).log2 + k + 1) := by
    rw [Nat.div_lt_iff_lt_mul hd, Nat.add_right_comm, Nat.pow_add, Nat.mul_right_comm]
    exact Nat.mul_lt_mul_of_pos_right hupper (Nat.two_pow_pos k)
  have hne' : n * 2 ^ k / d ≠ 0 := ((Nat.two_pow_pos _).trans_le hle).ne'
  rw [lastPlace, lastPlace, (Nat.log2_eq_iff hne').2 ⟨hle, hlt⟩]
  omega

/-- Above the subnormal doubles, a power of two can be taken out before rounding. -/
theorem rounded_mul_two_pow (k : Nat) (hd : 0 < d) (h : 2 ^ 52 * d ≤ n) :
    rounded (n * 2 ^ k) d = rounded n d * 2 ^ k := by
  rw [rounded, rounded, lastPlace_mul_two_pow k hd h, Nat.pow_add, ← Nat.mul_assoc d,
    nearestInteger_mul_right _ _ (Nat.two_pow_pos k), Nat.mul_assoc]

/-- Rounding is off by at most half a place, and a place is at most the last of 53 bits, or next to
    zero a unit. -/
theorem rounded_mul_near (n : Nat) (hd : 0 < d) :
    2 ^ 53 * (rounded n d * d) ≤ 2 ^ 53 * n + n + 2 ^ 52 * d ∧
      2 ^ 53 * n ≤ 2 ^ 53 * (rounded n d * d) + n + 2 ^ 52 * d := by
  have hpos : 0 < d * 2 ^ lastPlace n d := Nat.mul_pos hd (Nat.two_pow_pos _)
  have hupper := nearestInteger_mul_le n (d * 2 ^ lastPlace n d)
  have hlower := le_nearestInteger_mul n hpos
  -- a place is worth one of 53 bits, or one unit where there are fewer
  have hplace : 2 ^ 52 * (d * 2 ^ lastPlace n d) ≤ n + 2 ^ 52 * d := by
    rcases (lastPlace n d).eq_zero_or_pos with h0 | h0
    · simp [h0]
    · exact (lastPlace_le h0).trans (Nat.le_add_right _ _)
  have hrounded : nearestInteger n (d * 2 ^ lastPlace n d) * (d * 2 ^ lastPlace n d) =
      rounded n d * d := by rw [rounded]; ring
  rw [hrounded] at hupper hlower
  omega

/-- The same as a distance between rational numbers. -/
theorem abs_rounded_sub_le (n : Nat) (hd : 0 < d) :
    |(rounded n d : ℚ) - n / d| ≤ n / d / 2 ^ 53 + 1 / 2 := by
  have hd' : (0 : ℚ) < d := Nat.cast_pos.2 hd
  obtain ⟨hupper, hlower⟩ := rounded_mul_near n hd
  have hupperQ : (2 : ℚ) ^ 53 * (rounded n d * d) ≤ 2 ^ 53 * n + n + 2 ^ 52 * d := by
    exact_mod_cast hupper
  have hlowerQ : (2 : ℚ) ^ 53 * n ≤ 2 ^ 53 * (rounded n d * d) + n + 2 ^ 52 * d := by
    exact_mod_cast hlower
  -- named as one number, the quotient makes both bounds linear
  obtain ⟨x, hx⟩ : ∃ x : ℚ, (n : ℚ) = x * d := ⟨n / d, (div_mul_cancel₀ _ hd'.ne').symm⟩
  rw [hx] at hupperQ hlowerQ
  rw [hx, mul_div_cancel_right₀ x hd'.ne', abs_le]
  constructor
  · refine le_of_mul_le_mul_right ?_ hd'
    linarith
  · refine le_of_mul_le_mul_right ?_ hd'
    linarith

/-! ## Magnitudes -/

namespace Magnitude

variable {num num' den den' u : Nat} {a b c : Magnitude}

/-- The number one in units, of which the smallest double is one. -/
theorem one_eq : one = 2 ^ 1074 := by decide +kernel

theorem one_pos : 0 < one := by decide +kernel

/-- What is too large for doubles, in units. -/
theorem overflow_eq : overflow = 2 ^ 1024 * one := by decide +kernel

/-- A quotient is rounded in units, unless it is too large. -/
theorem ofRatio_eq (num den : Nat) :
    ofRatio num den =
      if rounded (num * one) den < overflow then .finite (rounded (num * one) den)
      else .infinite := rfl

/-- Whether so many units are a finite double, with at most 53 significant bits. -/
structure Fits (u : Nat) : Prop where
  lt_overflow : u < overflow
  significand : ∃ m k, m < 2 ^ 53 ∧ u = m * 2 ^ k

/-- How far rounding goes, in units. -/
theorem abs_sub_le_of_ofRatio_eq (hden : 0 < den) (h : ofRatio num den = .finite u) :
    |(u : ℚ) - num * one / den| ≤ num * one / den / 2 ^ 53 + 1 / 2 := by
  rw [ofRatio_eq] at h
  split_ifs at h
  cases h
  simpa only [Nat.cast_mul] using abs_rounded_sub_le (num * one) hden

/-- Three quarters of the range of doubles are certainly not too large for them. -/
theorem exists_ofRatio_eq (hden : 0 < den) (h : (num / den : ℚ) ≤ 2 ^ 1023 * (3 / 2)) :
    ∃ u, ofRatio num den = .finite u := by
  suffices hlt : (rounded (num * one) den : ℚ) < overflow from
    ⟨_, by rw [ofRatio_eq, if_pos (Nat.cast_lt.1 hlt)]⟩
  have hone : (1 : ℚ) ≤ one := Nat.one_le_cast.2 one_pos
  have hlarge : (2 : ℚ) ≤ 2 ^ 1023 := le_self_pow₀ one_le_two (by decide)
  have hoverflow : (overflow : ℚ) = 2 ^ 1023 * 2 * one := by
    rw [overflow_eq, Nat.cast_mul, ← pow_succ, Nat.cast_pow, Nat.cast_ofNat]
  have hround := (abs_le.1 (abs_rounded_sub_le (num * one) hden)).2
  rw [Nat.cast_mul, mul_div_right_comm] at hround
  rw [hoverflow]
  -- neither of the two powers is to be evaluated
  generalize (2 : ℚ) ^ 1023 = limit at *
  generalize (one : ℚ) = unit at *
  have hproduct : (num / den : ℚ) * unit ≤ limit * (3 / 2) * unit := by gcongr
  have hlimit : 2 * 1 ≤ limit * unit := by gcongr
  linarith

/-- What is above a double by less than a quarter of its last place is rounded to it. -/
theorem ofRatio_of_near (hden : 0 < den) (hu : Fits u) (hle : u * den ≤ num * one)
    (hnear : 2 ^ 55 * (num * one) ≤ (2 ^ 55 + 1) * (u * den)) : ofRatio num den = .finite u := by
  obtain ⟨hlt, m, k, hm, rfl⟩ := hu
  rw [ofRatio_eq, rounded_of_near hden hm hle hnear, if_pos hlt]

/-- A double is rounded to itself. -/
theorem ofRatio_of_exact (hden : 0 < den) (hu : Fits u) (h : u * den = num * one) :
    ofRatio num den = .finite u :=
  ofRatio_of_near hden hu h.le (by omega)

/-- Larger quotients are not rounded to smaller doubles. -/
theorem ofRatio_mono (hden : 0 < den) (hden' : 0 < den') (h : num * den' ≤ num' * den) :
    (ofRatio num' den').lt (ofRatio num den) = false := by
  -- both quotients are written over one denominator first
  have hle : rounded (num * one) den ≤ rounded (num' * one) den' := by
    rw [← rounded_mul_right (num * one) den hden', ← rounded_mul_right (num' * one) den' hden,
      Nat.mul_comm den' den, Nat.mul_right_comm num, Nat.mul_right_comm num']
    exact rounded_mono (Nat.mul_pos hden hden') (Nat.mul_le_mul_right one h)
  rw [ofRatio_eq, ofRatio_eq]
  split_ifs <;> simp [lt] <;> omega

/-- A finite product has finite factors. -/
theorem exists_of_mul_eq (h : a.mul b = .finite u) :
    ∃ i j, a = .finite i ∧ b = .finite j ∧ ofRatio (i * j) (one * one) = .finite u := by
  cases a with
  | infinite => exact nomatch h
  | finite i =>
    cases b with
    | infinite => exact nomatch h
    | finite j =>
      rw [mul] at h
      exact ⟨i, j, rfl, rfl, h⟩

/-- Products with the same factor keep the order. -/
theorem mul_mono (c : Magnitude) (h : b.lt a = false) : (b.mul c).lt (a.mul c) = false := by
  have hone := Nat.mul_pos one_pos one_pos
  -- an infinite factor makes both products infinite, and an infinite product is below none
  cases c with
  | infinite => cases a <;> cases b <;> rfl
  | finite c =>
    cases b with
    | infinite => cases a <;> rfl
    | finite b =>
      cases a with
      | infinite => exact nomatch h
      | finite a =>
        have hle : a ≤ b := by simpa [lt] using h
        have hproduct : a * c * (one * one) ≤ b * c * (one * one) :=
          Nat.mul_le_mul_right _ (Nat.mul_le_mul_right c hle)
        rw [mul, mul]
        exact ofRatio_mono hone hone hproduct

/-- Multiplication by a power of two rounds nothing, so it may as well be done before. Only next to
    zero doubles have fewer bits, which rounding before the multiplication would lose. -/
theorem ofRatio_mul_two_pow (k : Nat) (hden : 0 < den)
    (h : num = 0 ∨ 2 ^ 52 * den ≤ num * one) :
    (ofRatio num den).mul (.finite (2 ^ k * one)) = ofRatio (num * 2 ^ k) den := by
  have hone := Nat.mul_pos one_pos one_pos
  -- the power can be taken out before rounding, and the product with it is exact
  have hscaled : rounded (num * 2 ^ k * one) den = rounded (num * one) den * 2 ^ k := by
    rw [Nat.mul_right_comm]
    rcases h with rfl | h
    · simp [rounded, nearestInteger]
    · exact rounded_mul_two_pow k hden h
  obtain ⟨m, j, hm, hbits⟩ := exists_significand_rounded (num * one) hden
  have hproduct : rounded (rounded (num * one) den * (2 ^ k * one) * one) (one * one) =
      rounded (num * one) den * 2 ^ k := by
    have hexact := rounded_of_exact (k := j + k) hone hm
    rw [hbits]
    rw [Nat.pow_add, ← Nat.mul_assoc m] at hexact
    rw [← hexact]
    ring_nf
  rw [ofRatio_eq, ofRatio_eq, hscaled]
  -- what overflows before the multiplication overflows after it
  split_ifs with hlt hlt' hlt'
  · rw [mul, ofRatio_eq, hproduct, if_pos hlt']
  · rw [mul, ofRatio_eq, hproduct, if_neg hlt']
  · exact absurd ((Nat.le_mul_of_pos_right _ (Nat.two_pow_pos k)).trans_lt hlt') hlt
  · rfl

end Magnitude

/-! ## Numbers that doubles hold -/

/-- A rational number that a finite double holds. -/
def IsDouble (x : ℚ) : Prop := ∃ u, Magnitude.Fits u ∧ x = u / Magnitude.one

/-- Doubles hold whole numbers of at most 53 bits, with binary zeros behind them. -/
theorem isDouble_mul_two_pow (hm : m < 2 ^ 53) (hk : k ≤ 971) : IsDouble (m * 2 ^ k) := by
  have hone : (0 : ℚ) < Magnitude.one := Nat.cast_pos.2 Magnitude.one_pos
  refine ⟨m * 2 ^ k * Magnitude.one, ⟨?_, m, k + 1074, hm, ?_⟩, ?_⟩
  · rw [Magnitude.overflow_eq]
    have hbits : m * 2 ^ k < 2 ^ (53 + k) := by
      rw [Nat.pow_add]
      exact Nat.mul_lt_mul_of_pos_right hm (Nat.two_pow_pos k)
    have hexponent : 53 + k ≤ 1024 := by omega
    exact Nat.mul_lt_mul_of_pos_right
      (hbits.trans_le (pow_le_pow_right₀ one_le_two hexponent)) Magnitude.one_pos
  · rw [pow_add, ← mul_assoc, ← Magnitude.one_eq]
  · rw [Nat.cast_mul, mul_div_cancel_right₀ _ hone.ne', Nat.cast_mul, Nat.cast_pow,
      Nat.cast_ofNat]

end Binary64

end Nodewright
