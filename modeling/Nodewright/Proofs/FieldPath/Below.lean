import Nodewright.Proofs.FieldPath.Text

/-!
# Places below other places

A place is below another one if further steps lead to it from there. For an item this can be read
off the texts: the closing bracket ends the number of the item, so that the text of a place starts
with the text of the item only if the place is below the item. Item 1 and item 10 are not mixed up.

## Key results

- `FieldPath.text_below`: the text of a place below another one starts with the text of that one
- `FieldPath.exists_below_of_text_prefix`: below an item there are no other such places
-/

namespace Nodewright.FieldPath

/-- The place that some steps lead to from here. -/
def below (p : FieldPath) (steps : List Step) : FieldPath := { p with steps := p.steps ++ steps }

/-- The text of a place below another one goes on where the text of that one ends. -/
theorem text_below (p : FieldPath) (steps : List Step) :
    (p.below steps).text = p.text ++ String.ofList (stepChars steps) := by
  rw [← String.toList_inj, String.toList_append, String.toList_ofList, toList_text, toList_text,
    below, stepChars, List.flatMap_append, List.append_assoc]
  rfl

/-! ## Items -/

/-- Behind a name there is a point or a bracket if there are steps, whatever follows them. -/
theorem isPlain_head?_append {steps : List Step} (h : steps ≠ []) (rest : List Char) :
    ∀ c, (stepChars steps ++ rest).head? = some c → isPlain c = false := by
  intro c hc
  cases steps with
  | nil => exact absurd rfl h
  | cons s steps =>
    refine isPlain_head?_stepChars (s :: steps) c ?_
    cases s with
    | child name => rwa [stepChars_child] at hc ⊢
    | index i => rwa [stepChars_index] at hc ⊢

/-- Steps whose characters start with those that lead to an item lead to the item first. -/
theorem exists_append_of_stepChars_append {front steps : List Step} {i : Nat} {rest : List Char}
    (hfront : ∀ s ∈ front, s.Plain) (hsteps : ∀ s ∈ steps, s.Plain)
    (h : stepChars (front ++ [.index i]) ++ rest = stepChars steps) :
    ∃ behind, steps = front ++ [.index i] ++ behind := by
  -- induction on the steps to the list of the item: each is a step of the other path too, and then
  -- the item is
  induction front generalizing steps with
  | nil =>
    rw [List.nil_append, stepChars_index, List.cons_append, List.append_assoc] at h
    cases steps with
    | nil => cases h
    | cons s steps =>
      cases s with
      | child name =>
        rw [stepChars_child] at h
        exact absurd (List.cons.inj h).1 (by decide)
      | index j =>
        rw [stepChars_index] at h
        obtain ⟨rfl, -⟩ := eq_of_number_append (List.cons.inj h).2
        exact ⟨steps, rfl⟩
  | cons s front ih =>
    have hnext : front ++ [.index i] ≠ [] := by simp
    cases steps with
    | nil => cases s <;> simp [stepChars, Step.text] at h
    | cons s' steps =>
      have ih' := ih (List.forall_mem_cons.1 hfront).2 (List.forall_mem_cons.1 hsteps).2
      -- both texts go on with the same step
      cases s with
      | child name =>
        rw [List.cons_append, stepChars_child, List.cons_append, List.append_assoc] at h
        cases s' with
        | child name' =>
          rw [stepChars_child] at h
          obtain ⟨rfl, hrest⟩ := eq_of_name_append (List.forall_mem_cons.1 hfront).1
            (List.forall_mem_cons.1 hsteps).1 (isPlain_head?_append hnext rest)
            (isPlain_head?_stepChars _) (List.cons.inj h).2
          obtain ⟨behind, rfl⟩ := ih' hrest
          exact ⟨behind, rfl⟩
        | index j =>
          rw [stepChars_index] at h
          exact absurd (List.cons.inj h).1 (by decide)
      | index k =>
        rw [List.cons_append, stepChars_index, List.cons_append, List.append_assoc,
          List.cons_append] at h
        cases s' with
        | child name' =>
          rw [stepChars_child] at h
          exact absurd (List.cons.inj h).1 (by decide)
        | index j =>
          rw [stepChars_index] at h
          obtain ⟨rfl, hrest⟩ := eq_of_number_append (List.cons.inj h).2
          obtain ⟨behind, rfl⟩ := ih' hrest
          exact ⟨behind, rfl⟩

/-- A place whose text starts with that of an item is below the item. -/
theorem exists_below_of_text_prefix {p q : FieldPath} {i : Nat} (hp : (p.index i).Plain)
    (hq : q.Plain) (h : (p.index i).text.toList <+: q.text.toList) :
    ∃ steps, q = (p.index i).below steps := by
  obtain ⟨rest, h⟩ := h
  rw [toList_text, toList_text, List.append_assoc, steps_index] at h
  -- the roots are the same, since a step follows in both texts
  have hitem : p.steps ++ [.index i] ≠ [] := by simp
  obtain ⟨hroot, hrest⟩ := eq_of_name_append hp.root hq.root (isPlain_head?_append hitem rest)
    (isPlain_head?_stepChars _) h
  have hfront : ∀ s ∈ p.steps, s.Plain := fun s hs => hp.steps s (List.mem_append_left _ hs)
  obtain ⟨behind, hbehind⟩ := exists_append_of_stepChars_append hfront hq.steps hrest
  obtain ⟨root, steps⟩ := q
  exact ⟨behind, congrArg₂ mk hroot.symm hbehind⟩

end Nodewright.FieldPath
