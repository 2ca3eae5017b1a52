import Mathlib.Algebra.Order.Group.Multiset
import Mathlib.Data.List.Perm.Basic
import Nodewright.Execution.Rules
import Nodewright.Proofs.FieldPath.Text

/-!
# Slots of a report

A report has one slot for every place, in which it puts at most one problem. Only two places are
crowded: several rules look at the consensus rule of a network, and at the client of a node, and
there the detail says which of them is broken, so that every detail has a slot of its own.

The rules of a kind are put together from few pieces, and each piece fills the slots that it is told
to. `Report.Within slots r` says that a report fills each of the given slots at most once; it is
proved rule by rule. It also says that the report has nothing in it that only rules on changes find.

## Key results

- `Violation.slot`: the slot of a violation
- `Report.Within.append`, `Report.Within.either`, `Report.Within.flatMap`: reports put together
- `Siblings`: slots below the same place
- `nodup_slots`: slots below different places are different
-/

namespace Nodewright

/-! ## Violations -/

/-- A violation that shows only in comparison with an older version: a field changed that must not,
    or storage shrank. -/
def Violation.IsTransition (v : Violation) : Prop :=
  v.sort = .invalid ∧
    (v.detail = "field is immutable" ∨
      ∃ t, v.detail = "must be greater than or equal to old storage " ++ t)

/-- A place, with a detail where several problems may be reported. -/
abbrev Slot := FieldPath × Option String

/-- The names of fields that several rules look at. -/
def crowdedNames : List String := ["consensus", "client"]

/-- Whether several problems may be reported behind a step. -/
def FieldPath.Step.isCrowded : Step → Bool
  | child name => crowdedNames.contains name
  | index _ => false

/-- The slot of a violation. -/
def Violation.slot (v : Violation) : Slot :=
  (v.field, if v.field.steps.getLast?.any FieldPath.Step.isCrowded then some v.detail else none)

/-- Texts of which neither starts with the other. -/
def Diverge (s t : String) : Prop := ¬ s.toList <+: t.toList ∧ ¬ t.toList <+: s.toList

/-- What follows does not bring texts together. -/
theorem Diverge.append {s t : String} (h : Diverge s t) (rest : String) :
    Diverge (s ++ rest) t := by
  rw [Diverge, String.toList_append]
  refine ⟨fun hprefix => h.1 ((List.prefix_append _ _).trans hprefix), fun hprefix => ?_⟩
  -- both texts would start the longer one, so one of them would start the other
  rcases List.prefix_or_prefix_of_prefix hprefix (List.prefix_append s.toList rest.toList) with
    hprefix | hprefix
  · exact h.2 hprefix
  · exact h.1 hprefix

/-- A detail that does not start like those of rules on changes. -/
structure OwnDetail (detail : String) : Prop where
  immutable : Diverge detail "field is immutable"
  storage : Diverge detail "must be greater than or equal to old storage "

/-- Of a detail that is written out it is decided by its characters. -/
theorem OwnDetail.ofList {cs : List Char}
    (h : ∀ ds ∈
        ["field is immutable".toList, "must be greater than or equal to old storage ".toList],
      ¬ cs <+: ds ∧ ¬ ds <+: cs) : OwnDetail (String.ofList cs) := by
  constructor <;> rw [Diverge, String.toList_ofList]
  · exact h _ List.mem_cons_self
  · exact h _ (List.mem_cons_of_mem _ List.mem_cons_self)

/-- What follows an opening does not make it the detail of a rule on changes. -/
theorem OwnDetail.append {opening : String} (h : OwnDetail opening) (rest : String) :
    OwnDetail (opening ++ rest) :=
  ⟨h.immutable.append rest, h.storage.append rest⟩

/-- A violation with such a detail is found by looking at one spec only. -/
theorem OwnDetail.not_isTransition {v : Violation} (h : OwnDetail v.detail) :
    ¬ v.IsTransition := by
  -- the two details of rules on changes, each of which the opening excludes
  rintro ⟨-, heq | ⟨t, heq⟩⟩
  · exact h.immutable.1 (heq ▸ List.prefix_rfl)
  · refine h.storage.2 ?_
    rw [heq, String.toList_append]
    exact List.prefix_append _ _

/-- A field that one rule looks at has one slot. -/
theorem Violation.slot_of_child {v : Violation} {p : FieldPath} {name : String}
    (hfield : v.field = p.child name) (hname : name ∉ crowdedNames) :
    v.slot = (p.child name, none) := by
  simp [slot, hfield, FieldPath.Step.isCrowded, hname]

/-- A violation that belongs in a slot, and is none that rules on changes find. -/
structure Violation.Fills (x : Slot) (v : Violation) : Prop where
  slot : v.slot = x
  own : ¬ v.IsTransition

namespace Violation.Fills

variable {p : FieldPath} {name detail : String} {value : Value}

/-- A value that is turned down fills the slot of its field, if no other rule looks there. -/
theorem invalid (hname : name ∉ crowdedNames) (h : OwnDetail detail) :
    Fills (p.child name, none) (.invalid (p.child name) value detail) :=
  ⟨slot_of_child rfl hname, h.not_isTransition⟩

/-- So does a value that is missing; rules on changes never miss a value. -/
theorem required (hname : name ∉ crowdedNames) :
    Fills (p.child name, none) (.required (p.child name) detail) :=
  ⟨slot_of_child rfl hname, fun h => nomatch h.1⟩

/-- So does a value that stands elsewhere already. -/
theorem duplicate (hname : name ∉ crowdedNames) :
    Fills (p.child name, none) (.duplicate (p.child name) value) :=
  ⟨slot_of_child rfl hname, fun h => nomatch h.1⟩

/-- An item of a list has one slot. -/
theorem item {i : Nat} (h : OwnDetail detail) :
    Fills (p.index i, none) (.invalid (p.index i) value detail) := by
  refine ⟨?_, h.not_isTransition⟩
  simp [Violation.slot, Violation.invalid, FieldPath.Step.isCrowded]

/-- A field that several rules look at has a slot for each detail. -/
theorem crowded (hname : name ∈ crowdedNames) (h : OwnDetail detail) :
    Fills (p.child name, some detail) (.invalid (p.child name) value detail) := by
  refine ⟨?_, h.not_isTransition⟩
  simp [Violation.slot, Violation.invalid, FieldPath.Step.isCrowded, hname]

end Violation.Fills

/-! ## Reports -/

namespace Report

/-- A report that fills each of the slots at most once, with nothing that rules on changes find. -/
structure Within (slots : List Slot) (r : Report) : Prop where
  slots_le : (r.map Violation.slot : Multiset Slot) ≤ slots
  own : ∀ v ∈ r, ¬ v.IsTransition

namespace Within

variable {slots slots' : List Slot} {r r' : Report} {x : Slot} {v : Violation}

/-- A report of nothing leaves every slot empty. -/
theorem nil (slots : List Slot) : Within slots [] := ⟨Multiset.zero_le _, nofun⟩

/-- A report of one violation fills the slot of that violation. -/
theorem single (h : v.Fills x) : Within [x] [v] where
  slots_le := by rw [List.map_singleton, h.slot]
  own := List.forall_mem_singleton.2 h.own

/-- A rule fills its slot if its condition holds, and leaves it empty otherwise. -/
theorem when {b : Bool} (h : v.Fills x) : Within [x] (when b v) := by
  cases b
  · exact nil _
  · exact single h

/-- A rule on an optional value fills its slots only if there is a value. -/
theorem ofSome {α : Type} {value : Option α} {rule : α → Report}
    (h : ∀ a, Within slots (rule a)) : Within slots (ofSome value rule) := by
  cases value with
  | none => exact nil _
  | some a => exact h a

/-- Two reports together fill the slots of both. -/
theorem append (h : Within slots r) (h' : Within slots' r') :
    Within (slots ++ slots') (r ++ r') where
  slots_le := by
    rw [List.map_append, ← Multiset.coe_add, ← Multiset.coe_add]
    exact add_le_add h.slots_le h'.slots_le
  own := List.forall_mem_append.2 ⟨h.own, h'.own⟩

/-- The rules of a kind come one after the other, and so may their slots. -/
theorem cons (h : Within [x] r) (h' : Within slots r') : Within (x :: slots) (r ++ r') :=
  h.append h'

/-- A slot may be left empty. -/
theorem skip (h : Within slots r) : Within (x :: slots) r := cons (nil [x]) h

/-- Of two rules with the same slots at most one is broken. -/
theorem either (h : Within slots r) (h' : Within slots r') (hnone : r = [] ∨ r' = []) :
    Within slots (r ++ r') := by
  rcases hnone with rfl | rfl
  · exact h'
  · rwa [List.append_nil]

/-- A rule that is applied to each item of a list fills the slots of all of them. -/
theorem flatMap {α : Type} {items : List α} {rule : α → Report} {slots : α → List Slot}
    (h : ∀ a ∈ items, Within (slots a) (rule a)) :
    Within (items.flatMap slots) (items.flatMap rule) := by
  -- induction on the items, whose slots come in the same order
  induction items with
  | nil => exact nil _
  | cons a items ih =>
    exact (h a List.mem_cons_self).append (ih fun b hb => h b (List.mem_cons_of_mem a hb))

/-- More slots may be left empty, and the slots come in any order. -/
theorem mono (h : Within slots r) (hle : (slots : Multiset Slot) ≤ slots') : Within slots' r :=
  ⟨h.slots_le.trans hle, h.own⟩

/-- One slot may be picked from several. -/
theorem of_mem (h : Within [x] r) (hx : x ∈ slots) : Within slots r :=
  h.mono (Multiset.singleton_le.2 (Multiset.mem_coe.2 hx))

/-- The problems come in any order. -/
theorem perm (h : Within slots r) (hperm : r.Perm r') : Within slots r' where
  slots_le := by
    rw [← Multiset.coe_eq_coe.2 (hperm.map Violation.slot)]
    exact h.slots_le
  own v hv := h.own v (hperm.mem_iff.2 hv)

/-- The slot of a reported violation is one of those that the report may fill. -/
theorem mem_slots (h : Within slots r) (hv : v ∈ r) : v.slot ∈ slots :=
  Multiset.mem_of_le h.slots_le (List.mem_map_of_mem hv)

/-- If no slot is listed twice, no slot is filled twice: a report is counted with multiplicities. -/
theorem nodup (h : Within slots r) (hslots : slots.Nodup) : (r.map Violation.slot).Nodup :=
  Multiset.coe_nodup.1 (Multiset.nodup_of_le h.slots_le (Multiset.coe_nodup.2 hslots))

end Within

end Report

/-! ## Slots next to each other -/

/-- Slots that are one step behind the same place. -/
structure Siblings where
  parent : FieldPath
  last : List (FieldPath.Step × Option String)

namespace Siblings

/-- The slots that are one step behind a place. -/
def slots (s : Siblings) : List Slot := s.last.map fun e => (s.parent.step e.1, e.2)

/-- The named fields of a place. -/
def fields (parent : FieldPath) (names : List String) : Siblings :=
  ⟨parent, names.map fun name => (.child name, none)⟩

/-- So many items of a place. -/
def items (parent : FieldPath) (count : Nat) : Siblings :=
  ⟨parent, (List.range count).map fun i => (.index i, none)⟩

end Siblings

open Siblings (slots)

/-- A rule on each item of a place fills the slot of the item. -/
theorem Report.Within.items {α : Type} {items : List α} {p : FieldPath} {rule : α × Nat → Report}
    (h : ∀ a i, Within [(p.index i, none)] (rule (a, i))) :
    Within (Siblings.items p items.length).slots (items.zipIdx.flatMap rule) := by
  -- the items are counted by their places in the list, which are the slots one by one
  have hslots : (Siblings.items p items.length).slots =
      items.zipIdx.flatMap fun e => [(p.index e.2, none)] := by
    rw [← List.map_eq_flatMap, Siblings.slots, Siblings.items, List.map_map, List.range_eq_range',
      ← List.zipIdx_map_snd 0 items, List.map_map]
    rfl
  rw [hslots]
  exact .flatMap fun e _ => h e.1 e.2

/-- Slots behind different places are different. -/
theorem nodup_slots {places : List Siblings} (hparents : (places.map Siblings.parent).Nodup)
    (hlast : ∀ s ∈ places, s.last.Nodup) : (places.flatMap slots).Nodup := by
  have hparent {s : Siblings} {x : Slot} (hx : x ∈ s.slots) :
      ∃ e ∈ s.last, x = (s.parent.step e.1, e.2) := by
    obtain ⟨e, he, rfl⟩ := List.mem_map.1 hx
    exact ⟨e, he, rfl⟩
  refine List.nodup_flatMap.2 ⟨fun s hs => ?_, ?_⟩
  -- behind one place the last steps differ, and a step is not lost in the path
  · refine List.Nodup.map ?_ (hlast s hs)
    rintro ⟨t, d⟩ ⟨t', d'⟩ h
    obtain ⟨hstep, hdetail⟩ := Prod.mk.inj h
    exact Prod.ext (FieldPath.step_injective hstep).2 hdetail
  -- behind two places the slots differ since the places do
  · refine (List.pairwise_map.1 hparents).imp ?_
    intro s s' hne x hx hx'
    obtain ⟨e, -, rfl⟩ := hparent hx
    obtain ⟨e', -, h⟩ := hparent hx'
    exact hne (FieldPath.step_injective (Prod.mk.inj h).1).1

end Nodewright
