import Nodewright.Violation

/-!
# Reports that extend other reports

`Report.Extends extra r s` says that the report `s` has all violations of `r`, in their order, and
beyond them only violations of the sort `extra`. Reports are put together from the reports of
rules, so the relation is proved rule by rule: `Extends.append` and `Extends.flatMap` do the rest.
-/

namespace Nodewright

namespace Report

/-- A rule that finds nothing wrong with any value. -/
@[simp] theorem ofSome_nil {α : Type} (value : Option α) : ofSome value (fun _ => []) = [] := by
  cases value <;> rfl

/-- A rule that two values are the same. -/
@[simp] theorem when_ne_eq_nil {α : Type} [DecidableEq α] {a b : α} {v : Violation} :
    when (a ≠ b) v = [] ↔ a = b := by
  simp

/-- A rule on an optional value finds nothing iff it finds nothing wrong with a value that is there.
    -/
@[simp] theorem ofSome_eq_nil_iff {α : Type} {value : Option α} {rule : α → Report} :
    ofSome value rule = [] ↔ ∀ a, value = some a → rule a = [] := by
  cases value <;> simp

/-- A rule on each item of a list finds nothing iff every item keeps it. -/
theorem flatMap_zipIdx_eq_nil_iff {α : Type} {items : List α} {rule : α × Nat → Report}
    {Kept : α → Prop} (h : ∀ a i, rule (a, i) = [] ↔ Kept a) :
    items.zipIdx.flatMap rule = [] ↔ ∀ a ∈ items, Kept a := by
  simp only [List.flatMap_eq_nil_iff, Prod.forall, h, List.mk_mem_zipIdx_iff_getElem?]
  constructor
  · intro hkept a ha
    obtain ⟨i, hi⟩ := List.mem_iff_getElem?.1 ha
    exact hkept a i hi
  · exact fun hkept a i hi => hkept a (List.mem_of_getElem? hi)

/-- The violations of `r` stand in `s` in the same order, and every other one of `s` is `extra`. -/
structure Extends (extra : Violation → Prop) (r s : Report) : Prop where
  sublist : r.Sublist s
  other : ∀ v ∈ s, v ∉ r → extra v

namespace Extends

variable {extra : Violation → Prop} {r s : Report}

/-- A report extends itself. -/
theorem refl (r : Report) : Extends extra r r := ⟨.refl r, fun _ hv hn => absurd hv hn⟩

/-- Equal reports extend each other. -/
theorem of_eq (h : r = s) : Extends extra r s := h ▸ refl r

/-- Every violation of a report extends the empty one. -/
theorem of_forall (h : ∀ v ∈ s, extra v) : Extends extra [] s :=
  ⟨List.nil_sublist s, fun v hv _ => h v hv⟩

/-- Extensions of two reports, one behind the other, extend both. -/
theorem append {r' s' : Report} (h : Extends extra r s) (h' : Extends extra r' s') :
    Extends extra (r ++ r') (s ++ s') where
  sublist := h.sublist.append h'.sublist
  other v hv hn := by
    -- a violation that is in neither of the two is an extra one, wherever it stands
    obtain ⟨hr, hr'⟩ := not_or.1 fun hmem => hn (List.mem_append.2 hmem)
    rcases List.mem_append.1 hv with hv | hv
    · exact h.other v hv hr
    · exact h'.other v hv hr'

/-- Reports that are put together from items extend each other if they do so for each item. -/
theorem flatMap {α : Type} {items : List α} {f g : α → Report}
    (h : ∀ a ∈ items, Extends extra (f a) (g a)) :
    Extends extra (items.flatMap f) (items.flatMap g) := by
  induction items with
  | nil => exact refl []
  | cons a rest ih =>
    rw [List.flatMap_cons, List.flatMap_cons]
    exact (h a List.mem_cons_self).append (ih fun b hb => h b (List.mem_cons_of_mem a hb))

/-- The sort of the further violations may be widened. -/
theorem mono {wider : Violation → Prop} (h : Extends extra r s)
    (hle : ∀ v, extra v → wider v) : Extends wider r s :=
  ⟨h.sublist, fun v hv hn => hle v (h.other v hv hn)⟩

end Extends

end Report

end Nodewright
