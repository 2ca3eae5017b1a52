import Nodewright.Json.Printer
import Nodewright.Json.Reader
import Nodewright.Proofs.Text.Runs

/-!
# Strings and numbers that are read back

The reader of a string takes up one character for each step, however the printer writes it, so its
fuel counts characters of the string and not of the text. A natural number of 64 bits is read back
as long as the text behind it does not go on with a character of a number.

## Key results

- `stringTail_stringText`: a written string is read back
- `numberValue_toDigits`: so is a natural number of 64 bits
-/

namespace Nodewright.Json

variable {ε : Type}

/-! ## Strings -/

/-- The escape of a control has its code point. -/
private theorem codeUnit?_control :
    ∀ n < 0x20, codeUnit? '0' '0' (Nat.digitChar (n / 16)) (Nat.digitChar (n % 16)) = some n := by
  decide

/-- One step of the reader takes up what one character is written as. -/
theorem stringBody_escapedChar (fuel : Nat) (done : List Char) (c : Char) (rest : List Char) :
    (stringBody (fuel + 1) done (escapedChar c ++ rest) : Reading ε String) =
      stringBody fuel (c :: done) rest := by
  unfold escapedChar
  -- one case for each character with an escape of its own, then the controls, then all others
  split
  · next h => subst h; rfl
  split
  · next h => subst h; rfl
  split
  · next h =>
    obtain rfl : c = '\x08' := Char.toNat_inj.1 h
    rfl
  split
  · next h =>
    obtain rfl : c = '\x0c' := Char.toNat_inj.1 h
    rfl
  split
  · next h => subst h; rfl
  split
  · next h => subst h; rfl
  split
  · next h => subst h; rfl
  split
  · next hcontrol =>
    -- a control without a letter of its own is written with its code point
    have hunit := codeUnit?_control c.toNat hcontrol
    have hbelow : c.toNat < 0xd800 := by omega
    simp [stringBody, escape, hunit, hbelow, Char.ofNat_toNat]
  · next hquote hstroke _ _ _ _ _ hcontrol =>
    simp [stringBody, hquote, hstroke, hcontrol]

/-- The characters of a string are read up to its closing quote. -/
theorem stringBody_flatMap (fuel : Nat) (done cs rest : List Char) (hfuel : cs.length < fuel) :
    (stringBody fuel done (cs.flatMap escapedChar ++ '"' :: rest) : Reading ε String) =
      .ok (String.ofList (done.reverse ++ cs), rest) := by
  -- induction on the characters, each of which costs one unit of fuel
  induction cs generalizing fuel done with
  | nil =>
    obtain ⟨fuel, rfl⟩ : ∃ k, fuel = k + 1 := Nat.exists_eq_add_one.2 hfuel
    simp [stringBody]
  | cons c cs ih =>
    rw [List.length_cons] at hfuel
    obtain ⟨fuel, rfl⟩ : ∃ k, fuel = k + 1 := Nat.exists_eq_add_one.2 (by omega)
    rw [List.flatMap_cons, List.append_assoc, stringBody_escapedChar, ih _ _ (by omega),
      List.reverse_cons, List.append_assoc, List.singleton_append]

/-- Every character is written as one character or more. -/
private theorem length_le_length_flatMap (cs : List Char) :
    cs.length ≤ (cs.flatMap escapedChar).length := by
  induction cs with
  | nil => simp
  | cons c cs ih =>
    have hchar : 1 ≤ (escapedChar c).length := by
      unfold escapedChar
      repeat' split
      all_goals simp
    rw [List.flatMap_cons, List.length_append, List.length_cons]
    omega

/-- A written string is read back behind its opening quote. -/
theorem stringTail_stringText (s : String) (rest : List Char) :
    (stringTail (s.toList.flatMap escapedChar ++ '"' :: rest) : Reading ε String) =
      .ok (s, rest) := by
  have hfuel := length_le_length_flatMap s.toList
  rw [stringTail, stringBody_flatMap]
  · simp
  · rw [List.length_append]
    omega

/-! ## Numbers -/

/-- No number goes on with this text. -/
def EndsNumber (rest : List Char) : Prop :=
  ∀ c, rest.head? = some c → c.isDigit = false ∧ c ≠ '.' ∧ c ≠ 'e' ∧ c ≠ 'E'

/-- A number ends in front of a character that is neither a digit, nor a point, nor an exponent. -/
theorem endsNumber_cons {c : Char} {rest : List Char} (hdigit : c.isDigit = false)
    (hpoint : c ≠ '.') (hsmall : c ≠ 'e') (hlarge : c ≠ 'E') : EndsNumber (c :: rest) := by
  rintro _ ⟨⟩
  exact ⟨hdigit, hpoint, hsmall, hlarge⟩

/-- Digits of a number of 64 bits all fit in the significand. -/
theorem takeInteger_digitValues (digits : List Char) (significand : Nat)
    (h : Nat.ofDigitChars 10 digits significand < Nat.pow 2 64) :
    takeInteger (digitValues digits) significand =
      (Nat.ofDigitChars 10 digits significand, 0) := by
  -- induction on the digits, with the number that those in front make
  induction digits generalizing significand with
  | nil => rfl
  | cons c rest ih =>
    have hstep : Nat.ofDigitChars 10 (c :: rest) significand =
        Nat.ofDigitChars 10 rest (significand * 10 + (c.toNat - 0x30)) := by
      rw [Nat.ofDigitChars_eq_foldl, Nat.ofDigitChars_eq_foldl, List.foldl_cons, Nat.mul_comm]
      rfl
    -- the digits that follow do not make the number smaller
    have hle : significand * 10 + (c.toNat - 0x30) ≤
        Nat.ofDigitChars 10 rest (significand * 10 + (c.toNat - 0x30)) := by
      rw [Nat.ofDigitChars_eq_ofDigitChars_zero]
      have := Nat.le_mul_of_pos_left (significand * 10 + (c.toNat - 0x30))
        (Nat.pow_pos (n := rest.length) (show 0 < 10 by decide))
      omega
    rw [hstep] at h ⊢
    rw [digitValues, List.map_cons, takeInteger, if_pos (Nat.lt_of_le_of_lt hle h)]
    exact ih _ h

/-- Only zero is written with a zero in front. -/
private theorem length_toDigits_of_head?_eq_zero (n : Nat)
    (h : (Nat.toDigits 10 n).head? = some '0') : (Nat.toDigits 10 n).length = 1 := by
  induction n using Nat.strongRecOn with
  | ind n ih =>
    rcases Nat.lt_or_ge n 10 with hlt | hge
    · rw [Nat.toDigits_of_lt_base hlt]; rfl
    · -- the digits in front are those of the quotient, which is not zero
      obtain ⟨d, ds, hds⟩ :=
        List.exists_cons_of_ne_nil (Nat.toDigits_ne_nil (n := n / 10) (b := 10))
      rw [Nat.toDigits_of_base_le (by decide) hge, hds, List.cons_append, List.head?_cons,
        Option.some.injEq] at h
      subst h
      have hone := ih (n / 10) (by omega) (by rw [hds]; rfl)
      rw [hds, List.length_cons, Nat.add_eq_right, List.length_eq_zero_iff] at hone
      have hzero : n / 10 = 0 := by
        rw [← Nat.ofDigitChars_ten_toDigits (n := n / 10), hds, hone]; rfl
      omega

/-- The digits of a natural number are read as an integer part. -/
theorem numeral_toDigits (n : Nat) {rest : List Char} (hends : EndsNumber rest) :
    (numeral (Nat.toDigits 10 n ++ rest) : Reading ε Numeral) =
      .ok (⟨false, Nat.toDigits 10 n, none, none⟩, rest) := by
  have hdigit : ∀ c ∈ Nat.toDigits 10 n, c.isDigit = true := fun c hc =>
    Nat.isDigit_of_mem_toDigits (by decide) (by decide) hc
  have hstop : ∀ c, rest.head? = some c → c.isDigit = false := fun c hc => (hends c hc).1
  have htake := Text.takeWhile_append_of_stop hdigit hstop
  have hdrop := Text.dropWhile_append_of_stop hdigit hstop
  -- there is no sign, no point and no exponent
  have hsign : ∀ src, Nat.toDigits 10 n ++ rest ≠ '-' :: src := by
    intro src heq
    obtain ⟨d, ds, hds⟩ := List.exists_cons_of_ne_nil (Nat.toDigits_ne_nil (n := n) (b := 10))
    rw [hds, List.cons_append, List.cons.injEq] at heq
    have hminus := hdigit d (hds ▸ List.mem_cons_self)
    rw [heq.1] at hminus
    exact absurd hminus (by decide)
  have hfraction : (fractionPart rest : Reading ε _) = .ok (none, rest) := by
    unfold fractionPart
    split
    · next src => exact absurd rfl (hends '.' rfl).2.1
    · rfl
  have hexponent : (exponentPart rest : Reading ε _) = .ok (none, rest) := by
    unfold exponentPart
    split
    · next c src =>
      obtain ⟨-, -, hsmall, hlarge⟩ := hends c rfl
      simp [hsmall, hlarge]
    · rfl
  have hzero : ¬ ((Nat.toDigits 10 n).head? = some '0' ∧ (Nat.toDigits 10 n).length ≠ 1) :=
    fun h => h.2 (length_toDigits_of_head?_eq_zero n h.1)
  rw [numeral]
  · simp only [htake, hdrop, Nat.toDigits_ne_nil, if_false, hfraction]
    rw [if_neg (by simpa using hzero)]
    simp [Reading.andThen, Reading.as, hexponent]
  · exact hsign

/-- A natural number of 64 bits is read back. -/
theorem numberValue_toDigits (n : UInt64) {rest : List Char} (hends : EndsNumber rest) :
    (numberValue (Nat.toDigits 10 n.toNat ++ rest) : Reading ε Number) =
      .ok (.natural n, rest) := by
  have hinteger : takeInteger (digitValues (Nat.toDigits 10 n.toNat)) 0 = (n.toNat, 0) := by
    rw [takeInteger_digitValues _ _ (by rw [Nat.ofDigitChars_ten_toDigits]; exact n.toNat_lt),
      Nat.ofDigitChars_ten_toDigits]
  simp [numberValue, numeral_toDigits _ hends, Reading.andThen, Number.ofDigits?, hinteger]

end Nodewright.Json
