/-!
# Runs of characters

A reader takes up a run of characters of one sort and goes on behind it.

## Key results

- `takeWhile_append_of_stop`: what it takes up is all of the run
- `dropWhile_append_of_stop`: it goes on where the run ends
-/

namespace Nodewright.Text

variable {α : Type} {p : α → Bool} {run rest : List α}

/-- The run that is taken up ends where the next character is of another sort. -/
theorem takeWhile_append_of_stop (h : ∀ a ∈ run, p a = true)
    (hstop : ∀ a, rest.head? = some a → p a = false) : (run ++ rest).takeWhile p = run := by
  rw [List.takeWhile_append_of_pos h]
  cases rest with
  | nil => simp
  | cons a rest => simp [hstop a rfl]

/-- And what is left starts there. -/
theorem dropWhile_append_of_stop (h : ∀ a ∈ run, p a = true)
    (hstop : ∀ a, rest.head? = some a → p a = false) : (run ++ rest).dropWhile p = rest := by
  rw [List.dropWhile_append_of_pos h]
  cases rest with
  | nil => rfl
  | cons a rest => simp [hstop a rfl]

end Nodewright.Text
