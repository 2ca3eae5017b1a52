import Mathlib.Data.List.DropRight
import Nodewright.Proofs.Text.Runs
import Nodewright.Text.Blank

/-!
# Texts without the blanks at their ends

## Key results

- `exists_eq_append_trimmed`: nothing but blanks is taken off
- `trimmed_append`: and all of the blanks at both ends are
-/

namespace Nodewright.Text

/-- No digit is blank. -/
theorem isBlank_eq_false_of_isDigit {c : Char} (h : c.isDigit = true) : isBlank c = false := by
  have hrange : 48 ≤ c.toNat ∧ c.toNat ≤ 57 := by
    rw [Char.isDigit, Bool.and_eq_true, decide_eq_true_eq, decide_eq_true_eq] at h
    exact h
  simp only [isBlank, Bool.or_eq_false_iff, Bool.and_eq_false_iff, decide_eq_false_iff_not,
    beq_eq_false_iff_ne]
  omega

/-- What is taken off the ends of a text is blank. -/
theorem exists_eq_append_trimmed (s : List Char) :
    ∃ before after, s = before ++ (trimmed s ++ after) ∧
      (∀ c ∈ before, isBlank c = true) ∧ ∀ c ∈ after, isBlank c = true := by
  -- the blanks in front are taken off first, and then those behind what is left
  have hback : trimmed s = (s.dropWhile isBlank).rdropWhile isBlank := rfl
  refine ⟨s.takeWhile isBlank, (s.dropWhile isBlank).rtakeWhile isBlank, ?_,
    fun c hc => List.mem_takeWhile_imp hc, fun c hc => List.mem_rtakeWhile_imp hc⟩
  rw [hback, List.rdropWhile_append_rtakeWhile, List.takeWhile_append_dropWhile]

/-- All blanks are taken off that stand around a text without blanks. -/
theorem trimmed_append {before text after : List Char} (hbefore : ∀ c ∈ before, isBlank c = true)
    (hafter : ∀ c ∈ after, isBlank c = true) (hne : text ≠ [])
    (htext : ∀ c ∈ text, isBlank c = false) : trimmed (before ++ (text ++ after)) = text := by
  -- both runs of blanks end where the text begins, seen from either end
  have hfront : ∀ c, (text ++ after).head? = some c → isBlank c = false := by
    intro c hc
    rw [List.head?_append_of_ne_nil _ hne] at hc
    exact htext c (List.mem_of_mem_head? hc)
  have hback : ∀ c, text.reverse.head? = some c → isBlank c = false := fun c hc =>
    htext c (List.mem_reverse.1 (List.mem_of_mem_head? hc))
  have hafter' : ∀ c ∈ after.reverse, isBlank c = true := fun c hc =>
    hafter c (List.mem_reverse.1 hc)
  rw [trimmed, dropWhile_append_of_stop hbefore hfront, List.reverse_append,
    dropWhile_append_of_stop hafter' hback, List.reverse_reverse]

end Nodewright.Text
