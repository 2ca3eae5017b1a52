/-! # Parts of a text

`parts` cuts a text at every occurrence of a character. There is always a part
(`parts_ne_nil`), the two sides of an occurrence are cut each by itself (`parts_append_cons`), and a
text with the character in front is made of the parts with the character in front of each
(`cons_eq_flatMap_parts`). -/

namespace Nodewright.Text

/-- The parts of a text between the occurrences of a character. -/
def parts (sep : Char) : List Char → List (List Char)
  | [] => [[]]
  | c :: rest =>
    if c = sep then [] :: parts sep rest
    else
      match parts sep rest with
      | [] => [[c]]
      | part :: more => (c :: part) :: more

/-- There is a part, be it an empty one. -/
theorem parts_ne_nil (sep : Char) (cs : List Char) : parts sep cs ≠ [] := by
  cases cs with
  | nil => simp [parts]
  | cons c rest =>
    rw [parts]
    split
    · simp
    · split <;> simp

/-- At a separator a text falls into two, each of which is cut by itself. -/
theorem parts_append_cons (sep : Char) (front back : List Char) :
    parts sep (front ++ sep :: back) = parts sep front ++ parts sep back := by
  induction front with
  | nil => simp [parts]
  | cons c front ih =>
    rw [List.cons_append, parts, parts, ih]
    split
    · rfl
    · cases h : parts sep front with
      | nil => exact absurd h (parts_ne_nil sep front)
      | cons part more => rfl

/-- Without a separator, a text is its only part. -/
theorem parts_of_notMem {sep : Char} {cs : List Char} (h : sep ∉ cs) : parts sep cs = [cs] := by
  induction cs with
  | nil => rfl
  | cons c cs ih =>
    rw [List.mem_cons, not_or] at h
    rw [parts, if_neg (Ne.symm h.1), ih h.2]

/-- With a separator in front of a text there is one in front of every part. -/
theorem cons_eq_flatMap_parts (sep : Char) (cs : List Char) :
    sep :: cs = (parts sep cs).flatMap (sep :: ·) := by
  induction cs with
  | nil => rfl
  | cons c cs ih =>
    rw [parts]
    split
    · next same => rw [List.flatMap_cons, ← ih, same]; rfl
    · cases h : parts sep cs with
      | nil => exact absurd h (parts_ne_nil sep cs)
      | cons part more =>
        rw [h, List.flatMap_cons, List.cons_append, List.cons_eq_cons] at ih
        rw [List.flatMap_cons, ih.2]
        rfl

end Nodewright.Text
