import Nodewright.Text.Joined

/-!
# Taking joined texts apart

Texts that are joined by a separator can be told apart again, as long as none of them holds the
separator.

## Key results

- `toList_joinWith`: joined texts, character by character
- `joinWith_injective`: names without commas are known from the text that joins them
-/

namespace Nodewright.Text

/-- The characters of joined texts. -/
theorem toList_joinWith (sep : String) (words : List String) :
    (joinWith sep words).toList = sep.toList.intercalate (words.map String.toList) := by
  induction words with
  | nil => rfl
  | cons s rest ih =>
    cases rest with
    | nil => simp
    | cons t rest =>
      rw [joinWith_cons_cons, String.toList_append, String.toList_append, ih]
      simp

/-- Words without commas are known from the text that joins them. -/
theorem joinWith_injective {xs ys : List String} (hxs : ∀ x ∈ xs, ',' ∉ x.toList)
    (hys : ∀ y ∈ ys, ',' ∉ y.toList) (hx : xs ≠ []) (hy : ys ≠ [])
    (h : joinWith "," xs = joinWith "," ys) : xs = ys := by
  have hsplit (words : List String) (hwords : ∀ w ∈ words, ',' ∉ w.toList) (hne : words ≠ []) :
      (joinWith "," words).toList.splitOn ',' = words.map String.toList := by
    rw [toList_joinWith]
    refine List.splitOn_intercalate ',' ?_ (by simpa using hne)
    simpa using hwords
  rw [← List.map_inj_right fun s t => String.toList_inj.1, ← hsplit xs hxs hx,
    ← hsplit ys hys hy, h]

end Nodewright.Text
