import Nodewright.Proofs.FieldPath.Below
import Nodewright.Resources
import Nodewright.Capability
import Nodewright.Proofs.Report.Once

/-!
# Rules that look at a place from within

Most rules name what they report by steps from the place that they look at, and do not ask where
that place is. Their report at one place is their report at another, with the text of the one place
exchanged for that of the other.

## Key results

- `Report.Relative`: rules whose reports do not depend on where the place is
- `Report.Relative.map_entry`: at another place they report the same with another text in front
- `Resources.relative_problems`: the rules on resources are such rules
-/

namespace Nodewright

namespace Violation

/-- The violation at the same steps from another place. -/
def below (path : FieldPath) (v : Violation) : Violation :=
  { v with field := path.below v.field.steps }

/-- A violation below a place as it is reported, with the text of another place in front. -/
def movedEntry (p q : FieldPath) (v : Violation) : Violation.Sort × String × Value × String :=
  (v.sort, q.text ++ String.ofList (v.field.text.toList.drop p.text.toList.length), v.value,
    v.detail)

/-- What is reported below one place reads, when it is moved, as it is reported below the other. -/
theorem movedEntry_below (p q : FieldPath) (v : Violation) :
    (v.below p).movedEntry p q = (v.below q).entry := by
  simp only [movedEntry, entry, below, FieldPath.text_below, String.toList_append,
    String.toList_ofList, List.drop_left]

end Violation

namespace Report

/-- A rule that reports the same steps from the place that it looks at, wherever that is. -/
def Relative (rule : FieldPath → Report) : Prop :=
  ∃ found : Report, ∀ path, rule path = found.map (Violation.below path)

namespace Relative

variable {rule rule' : FieldPath → Report}

/-- A rule that looks at one field under a condition. -/
theorem when (b : Bool) (s : FieldPath.Step) (value : Violation.Value) (detail : String) :
    Relative fun path => when b (.invalid (path.step s) value detail) :=
  ⟨Report.when b (.invalid ⟨"", [s]⟩ value detail), fun _ => by cases b <;> rfl⟩

/-- A rule on an optional value, which looks at the place in the same way for each value. -/
theorem ofSome {α : Type} (value : Option α) {rule : α → FieldPath → Report}
    (h : ∀ a, Relative (rule a)) : Relative fun path => ofSome value fun a => rule a path := by
  cases value with
  | none => exact ⟨[], fun _ => rfl⟩
  | some a => exact h a

/-- Two rules, one after the other. -/
theorem append (h : Relative rule) (h' : Relative rule') :
    Relative fun path => rule path ++ rule' path := by
  obtain ⟨found, hfound⟩ := h
  obtain ⟨found', hfound'⟩ := h'
  refine ⟨found ++ found', fun path => ?_⟩
  dsimp only
  rw [hfound, hfound', List.map_append]

/-- A rule for each item of a list. -/
theorem flatMap {α : Type} {items : List α} {rule : α → FieldPath → Report}
    (h : ∀ a ∈ items, Relative (rule a)) :
    Relative fun path => items.flatMap fun a => rule a path := by
  induction items with
  | nil => exact ⟨[], fun _ => rfl⟩
  | cons a items ih =>
    exact (h a List.mem_cons_self).append (ih fun b hb => h b (List.mem_cons_of_mem a hb))

/-- A rule that is put to use on a field of the place. -/
theorem child (h : Relative rule) (name : String) :
    Relative fun path => rule (path.child name) := by
  obtain ⟨found, hfound⟩ := h
  -- what was found is one step further below the place
  refine ⟨found.map (Violation.below ⟨"", [.child name]⟩), fun path => ?_⟩
  dsimp only
  rw [hfound, List.map_map]
  refine List.map_congr_left fun v _ => ?_
  simp only [Function.comp_apply, Violation.below, FieldPath.below, FieldPath.child,
    FieldPath.step, List.append_assoc]

/-- At another place the text of that place stands in front. -/
theorem map_entry (h : Relative rule) (p q : FieldPath) :
    (rule q).map Violation.entry = (rule p).map (Violation.movedEntry p q) := by
  -- both reports are what was found, below the one place and below the other
  obtain ⟨found, hfound⟩ := h
  rw [hfound, hfound, List.map_map, List.map_map]
  exact List.map_congr_left fun v _ => (Violation.movedEntry_below p q v).symm

end Relative

end Report

open Report (Relative)

/-! ## Rules that several kinds share -/

/-- The rule on the level of logging does not ask where the node stands. -/
theorem Registry.relative_loggingRule {α : Type} [DecidableEq α] [Named α] (registry : Registry α)
    (client : α) (level : Option Verbosity) :
    Relative fun path => registry.loggingRule client level (path.child "logging") :=
  .ofSome level fun _ => .when _ _ _ _

/-- The rules on resources do not ask whose resources they are. -/
theorem Resources.relative_problems (r : Resources) : Relative r.problems := by
  -- five rules on one quantity, and two that compare a limit with its request
  have hquantity (name : String) (value : Option String) :
      Relative fun path => quantityRule (path.child name) value :=
    .ofSome value fun _ => .when _ _ _ _
  have hlimit (name label : String) (request limit : Option String) :
      Relative fun path => limitRule (path.child name) label request limit :=
    .ofSome request fun _ => .ofSome limit fun _ => .when _ _ _ _
  exact ((((((hquantity _ _).append (hquantity _ _)).append (hquantity _ _)).append
    (hquantity _ _)).append (hquantity _ _)).append (hlimit _ _ _ _)).append (hlimit _ _ _ _)

end Nodewright
