import Nodewright.Proofs.Resources.Filling

/-!
# Storage over time

Storage is compared by the amounts of the quantities, and the comparison is passed over where one
of them is missing or cannot be read. Resources that are filled and have no problem always have
an amount, so no comparison between them is passed over, and the order is one over any number of
changes.

## Key results

- `exists_storageAmount`: filled resources without problems have an amount of storage
- `grows_of_transitions_eq_nil`: what the rules on changes say of such resources
- `Grows.trans`: storage that never shrinks from one change to the next has not shrunk
-/

namespace Nodewright

namespace Binary64.Magnitude

/-- Magnitudes that do not decrease twice do not decrease. -/
theorem lt_eq_false_trans {x y z : Magnitude} (hxy : y.lt x = false) (hyz : z.lt y = false) :
    z.lt x = false := by
  cases x <;> cases y <;> cases z <;> simp_all [lt]
  omega

end Binary64.Magnitude

namespace Resources

variable {r s t : Resources} {path : FieldPath}

/-- The amount of storage, if it is given and can be read. -/
def storageAmount (r : Resources) : Option Binary64.Magnitude := r.storage.bind Quantity.amount?

/-- The storage of filled resources without problems has an amount. -/
theorem exists_storageAmount {p : ResourceProfile} (h : (r.fill p).problems path = []) :
    ∃ a, (r.fill p).storageAmount = some a := by
  simp only [problems, List.append_eq_nil_iff] at h
  obtain ⟨⟨⟨-, hstorage⟩, -⟩, -⟩ := h
  -- filled resources have some storage, and the rule says that it can be read
  have hreadable := quantityRule_eq_nil_iff.1 hstorage (r.storage.getD p.storage) rfl
  obtain ⟨q, hq⟩ := Option.isSome_iff_exists.1 hreadable
  refine ⟨q.amount, ?_⟩
  simp [storageAmount, fill, Quantity.amount?, hq]

/-- The later resources keep the class of storage, and have no less of it. -/
structure Grows (r s : Resources) : Prop where
  storageClass : s.storageClass = r.storageClass
  storage : ∃ a b, r.storageAmount = some a ∧ s.storageAmount = some b ∧ b.lt a = false

namespace Grows

theorem refl (h : ∃ a, r.storageAmount = some a) : r.Grows r := by
  obtain ⟨a, ha⟩ := h
  exact ⟨rfl, a, a, ha, ha, a.lt_irrefl⟩

/-- Storage that never shrinks from one change to the next has not shrunk. -/
theorem trans (h : r.Grows s) (h' : s.Grows t) : r.Grows t := by
  obtain ⟨a, b, ha, hb, hab⟩ := h.storage
  obtain ⟨b', c, hb', hc, hbc⟩ := h'.storage
  obtain rfl : b = b' := Option.some.inj (hb.symm.trans hb')
  exact ⟨h'.storageClass.trans h.storageClass, a, c, ha, hc,
    Binary64.Magnitude.lt_eq_false_trans hab hbc⟩

end Grows

/-- Resources with amounts of storage grow if the rules on changes find nothing. -/
theorem grows_of_transitions_eq_nil (hr : ∃ a, r.storageAmount = some a)
    (hs : ∃ b, s.storageAmount = some b) (h : transitions r s path = []) : r.Grows s := by
  obtain ⟨a, ha⟩ := hr
  obtain ⟨b, hb⟩ := hs
  obtain ⟨told, hold, hamount⟩ := Option.bind_eq_some_iff.1 ha
  obtain ⟨tnew, hnew, hamount'⟩ := Option.bind_eq_some_iff.1 hb
  obtain ⟨hstorage, hclass⟩ := List.append_eq_nil_iff.1 h
  rw [Report.when_ne_eq_nil] at hclass
  rw [storageRule, hnew, hold, Report.ofSome_some, Report.ofSome_some, Report.when_eq_nil,
    Quantity.isLess, hamount, hamount'] at hstorage
  exact ⟨hclass, a, b, ha, hb, hstorage⟩

end Resources

end Nodewright
