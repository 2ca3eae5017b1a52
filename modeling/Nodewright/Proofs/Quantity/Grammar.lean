import Nodewright.Proofs.Text.Runs
import Nodewright.Quantity

/-!
# How quantities are written

A quantity is written as digits, maybe with a point and more digits behind them, and then the suffix
of its scale. The reader takes such texts, and no others.

## Key results

- `Quantity.Spells`: the texts of a quantity
- `Quantity.ofChars?_eq_some_iff`: a quantity is read from its texts, and from nothing else
-/

namespace Nodewright

namespace Quantity

/-- One or more digits. -/
structure Digits (cs : List Char) : Prop where
  ne_nil : cs ≠ []
  isDigit : ∀ c ∈ cs, c.isDigit = true

/-- How a quantity is written. -/
inductive Spells : List Char → Quantity → Prop
  | whole {integer : List Char} (scale : Scale) (hinteger : Digits integer) :
      Spells (integer ++ scale.suffix) ⟨Nat.ofDigitChars 10 integer 0, 0, scale⟩
  | decimal {integer fraction : List Char} (scale : Scale) (hinteger : Digits integer)
      (hfraction : Digits fraction) :
      Spells (integer ++ '.' :: (fraction ++ scale.suffix))
        ⟨Nat.ofDigitChars 10 (integer ++ fraction) 0, fraction.length, scale⟩

/-! ## Suffixes -/

namespace Scale

/-- No suffix starts with a digit. -/
theorem isDigit_head?_suffix (s : Scale) : ∀ c, s.suffix.head? = some c → c.isDigit = false := by
  cases s <;> simp [suffix]

/-- No suffix starts with a point. -/
theorem suffix_ne_point (s : Scale) (rest : List Char) : s.suffix ≠ '.' :: rest := by
  cases s <;> simp [suffix]

/-- A scale is read from its suffix, and from nothing else. -/
theorem ofSuffix?_eq_some_iff {cs : List Char} {s : Scale} :
    ofSuffix? cs = some s ↔ s.suffix = cs := by
  constructor
  · intro h
    simpa using List.find?_some h
  · rintro rfl
    cases s <;> decide

end Scale

/-! ## Quantities -/

/-- A run of digits that is not empty is a number. -/
theorem digits_takeWhile {cs : List Char} (h : (cs.takeWhile Char.isDigit).isEmpty = false) :
    Digits (cs.takeWhile Char.isDigit) where
  ne_nil := by simpa using h
  isDigit c hc := List.all_eq_true.1 List.all_takeWhile c hc

/-- A text is read as the quantity that it spells. -/
theorem ofChars?_of_spells {cs : List Char} {q : Quantity} (h : Spells cs q) :
    ofChars? cs = some q := by
  cases h with
  | @whole integer scale hinteger =>
    have hstop := scale.isDigit_head?_suffix
    have hsuffix : Scale.ofSuffix? scale.suffix = some scale := Scale.ofSuffix?_eq_some_iff.2 rfl
    simp only [ofChars?, Text.takeWhile_append_of_stop hinteger.isDigit hstop,
      Text.dropWhile_append_of_stop hinteger.isDigit hstop, List.isEmpty_iff, hinteger.ne_nil,
      if_false]
    -- the reader asks for a point before it asks for a suffix
    split
    · next heq => exact absurd heq (scale.suffix_ne_point _)
    · rw [hsuffix]
      rfl
  | @decimal integer fraction scale hinteger hfraction =>
    have hstop := scale.isDigit_head?_suffix
    have hsuffix : Scale.ofSuffix? scale.suffix = some scale := Scale.ofSuffix?_eq_some_iff.2 rfl
    have hpoint : ∀ c, ('.' :: (fraction ++ scale.suffix)).head? = some c → c.isDigit = false := by
      rintro c ⟨⟩
      rfl
    simp only [ofChars?, Text.takeWhile_append_of_stop hinteger.isDigit hpoint,
      Text.dropWhile_append_of_stop hinteger.isDigit hpoint,
      Text.takeWhile_append_of_stop hfraction.isDigit hstop,
      Text.dropWhile_append_of_stop hfraction.isDigit hstop, List.isEmpty_iff, hinteger.ne_nil,
      hfraction.ne_nil, if_false, hsuffix]
    rfl

/-- A quantity that is read is spelled by the text. -/
theorem spells_of_ofChars? {cs : List Char} {q : Quantity} (h : ofChars? cs = some q) :
    Spells cs q := by
  -- the reader divides the text into runs, which make it up again
  have hcs := List.takeWhile_append_dropWhile (p := Char.isDigit) (l := cs)
  simp only [ofChars?] at h
  split at h
  · cases h
  · next hne =>
    have hinteger := digits_takeWhile (Bool.eq_false_iff.2 hne)
    split at h
    · next rest hrest =>
      -- behind the point stand the fraction and the suffix
      split at h
      · cases h
      · next hne' =>
        have hfraction := digits_takeWhile (Bool.eq_false_iff.2 hne')
        have hparts := List.takeWhile_append_dropWhile (p := Char.isDigit) (l := rest)
        obtain ⟨scale, hscale, rfl⟩ := Option.map_eq_some_iff.1 h
        have htext := Spells.decimal scale hinteger hfraction
        rwa [Scale.ofSuffix?_eq_some_iff.1 hscale, hparts, ← hrest, hcs] at htext
    · -- there is no point, so the suffix is next
      obtain ⟨scale, hscale, rfl⟩ := Option.map_eq_some_iff.1 h
      have htext := Spells.whole scale hinteger
      rwa [Scale.ofSuffix?_eq_some_iff.1 hscale, hcs] at htext

/-- A quantity is read from the texts that spell it, and from nothing else. -/
theorem ofChars?_eq_some_iff {cs : List Char} {q : Quantity} :
    ofChars? cs = some q ↔ Spells cs q :=
  ⟨spells_of_ofChars?, ofChars?_of_spells⟩

/-- White space around a quantity is taken off before. -/
theorem ofText?_eq_some_iff {s : String} {q : Quantity} :
    ofText? s = some q ↔ Spells (Text.trimmed s.toList) q :=
  ofChars?_eq_some_iff

end Quantity

end Nodewright
