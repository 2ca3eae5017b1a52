import Nodewright.Proofs.Report.Extension
import Nodewright.Resources

/-!
# Filling the resources of a node

What filling does to the rules on requests and limits. A limit that is left out is chosen so that
it is not below its request, but a limit that is given may turn out to be below the request that
the profile puts in.

## Key results

- `fill_fill`: filled resources are left alone
- `problems_fill`: the problems of filled resources are those of the resources themselves, and
  limits below a request that was left out
- `problems_fill_eq_nil_iff`: when filled resources have no problem
-/

namespace Nodewright

/-- What is put in where a test asks for it is not replaced by a second test. -/
theorem ite_ite_usual {α : Type} (missing : α → Bool) (usual a : α) :
    (if missing (if missing a then usual else a) then usual
      else if missing a then usual else a) = if missing a then usual else a := by
  cases h : missing a <;> simp [h]

/-! ## Quantities -/

namespace Quantity

/-- No text is less than itself, whether or not it is a quantity. -/
@[simp] theorem isLess_self (s : String) : isLess s s = false := by
  rw [isLess]
  split
  · next a b ha hb =>
    obtain rfl : a = b := Option.some.inj (ha.symm.trans hb)
    exact Binary64.Magnitude.lt_irrefl a
  · rfl

/-- Only quantities are less than others. -/
theorem isSome_of_isLess_right {s t : String} (h : isLess s t = true) : (ofText? t).isSome := by
  rw [isLess] at h
  split at h
  · next a b ha hb =>
    rw [amount?, Option.map_eq_some_iff] at hb
    obtain ⟨q, hq, -⟩ := hb
    rw [hq]; rfl
  · exact nomatch h

end Quantity

/-- A profile that asks for quantities. -/
structure ResourceProfile.Readable (p : ResourceProfile) : Prop where
  cpu : (Quantity.ofText? p.cpu).isSome
  cpuLimit : (Quantity.ofText? p.cpuLimit).isSome
  memory : (Quantity.ofText? p.memory).isSome
  memoryLimit : (Quantity.ofText? p.memoryLimit).isSome
  storage : (Quantity.ofText? p.storage).isSome

namespace Resources

variable {p : ResourceProfile} {r : Resources} {path : FieldPath}

/-! ## Limits that are left out -/

/-- The limit that is put in is not below its request. -/
@[simp] theorem isLess_limitFor (request fallback : String) :
    Quantity.isLess (limitFor request fallback) request = false := by
  rw [limitFor]
  split
  · exact Quantity.isLess_self request
  · next h => exact Bool.eq_false_iff.2 h

/-- The limit that is put in can be read if the profile can. -/
theorem isSome_limitFor (request : String) {fallback : String}
    (h : (Quantity.ofText? fallback).isSome) :
    (Quantity.ofText? (limitFor request fallback)).isSome := by
  rw [limitFor]
  split
  · next hless => exact Quantity.isSome_of_isLess_right hless
  · exact h

@[simp] theorem fill_fill (p : ResourceProfile) (r : Resources) :
    (r.fill p).fill p = r.fill p := rfl

/-! ## Rules on filled resources -/

/-- A quantity in the place of one that is left out makes no difference. -/
theorem quantityRule_getD {usual : String} (h : (Quantity.ofText? usual).isSome)
    (field : FieldPath) (value : Option String) :
    quantityRule field (some (value.getD usual)) = quantityRule field value := by
  cases value with
  | none => simp [quantityRule, Option.isNone_eq_false_iff.2 h]
  | some v => rfl

/-- A limit that was given without its request, and is below the request of the profile. -/
inductive BelowUsual (p : ResourceProfile) (r : Resources) (path : FieldPath) : Violation → Prop
  | cpu {limit : String} (request_none : r.cpu = .none) (limit_some : r.cpuLimit = some limit)
      (below : Quantity.isLess limit p.cpu = true) :
      BelowUsual p r path
        (.invalid (path.child "cpuLimit") (.text limit)
          ("must be greater than or equal to cpu " ++ p.cpu))
  | memory {limit : String} (request_none : r.memory = .none)
      (limit_some : r.memoryLimit = some limit) (below : Quantity.isLess limit p.memory = true) :
      BelowUsual p r path
        (.invalid (path.child "memoryLimit") (.text limit)
          ("must be greater than or equal to memory " ++ p.memory))

/-- Of the rules on a limit, filling breaks only the one on a limit without its request. -/
theorem limitRule_fill {extra : Violation → Prop} (field : FieldPath) (name : String)
    (request limit : Option String) (usual usualLimit : String)
    (h : ∀ l, request = .none → limit = some l → Quantity.isLess l usual = true →
      extra (.invalid field (.text l)
        ("must be greater than or equal to " ++ name ++ " " ++ usual))) :
    Report.Extends extra (limitRule field name request limit)
      (limitRule field name (some (request.getD usual))
        (some (limit.getD (limitFor (request.getD usual) usualLimit)))) := by
  -- a limit that is left out is filled in above the request, and one that is given is not touched
  cases limit with
  | none => exact .of_eq (by cases request <;> simp [limitRule])
  | some l =>
    cases request with
    | some q => exact .refl _
    | none =>
      refine .of_forall fun v hv => ?_
      simp only [limitRule, Report.ofSome_some, Option.getD_none, Option.getD_some,
        Report.mem_when] at hv
      obtain ⟨hless, rfl⟩ := hv
      exact h l rfl rfl hless

/-- The problems of filled resources are those of the resources themselves, and limits that are
    below a request of the profile. -/
theorem problems_fill (hp : p.Readable) (r : Resources) (path : FieldPath) :
    Report.Extends (BelowUsual p r path) (r.problems path) ((r.fill p).problems path) := by
  have hcpu : Report.Extends (BelowUsual p r path) _ _ :=
    limitRule_fill (path.child "cpuLimit") "cpu" r.cpu r.cpuLimit p.cpu p.cpuLimit
      fun _ hn hs hb => .cpu hn hs hb
  have hmemory : Report.Extends (BelowUsual p r path) _ _ :=
    limitRule_fill (path.child "memoryLimit") "memory" r.memory r.memoryLimit p.memory
      p.memoryLimit fun _ hn hs hb => .memory hn hs hb
  refine ((Report.Extends.of_eq ?_).append hcpu).append hmemory
  -- the five rules on quantities find nothing new, as the profile asks for quantities
  simp only [fill, quantityRule_getD hp.cpu, quantityRule_getD (isSome_limitFor _ hp.cpuLimit),
    quantityRule_getD hp.memory, quantityRule_getD (isSome_limitFor _ hp.memoryLimit),
    quantityRule_getD hp.storage]

/-! ## Resources without problems -/

/-- Whether a value that may be left out is a quantity where it is given. -/
def Readable (value : Option String) : Prop := ∀ v, value = some v → (Quantity.ofText? v).isSome

/-- Resources that can be filled from a profile: every quantity that is given can be read, and no
    limit that is given is below its request, or below that of the profile where it has none. -/
structure Sound (p : ResourceProfile) (r : Resources) : Prop where
  cpu : Readable r.cpu
  cpuLimit : Readable r.cpuLimit
  memory : Readable r.memory
  memoryLimit : Readable r.memoryLimit
  storage : Readable r.storage
  cpu_le : ∀ l, r.cpuLimit = some l → Quantity.isLess l (r.cpu.getD p.cpu) = false
  memory_le : ∀ l, r.memoryLimit = some l → Quantity.isLess l (r.memory.getD p.memory) = false

/-- The rule on a quantity asks for one that can be read. -/
theorem quantityRule_eq_nil_iff {field : FieldPath} {value : Option String} :
    quantityRule field value = [] ↔ Readable value := by
  cases value <;> simp [quantityRule, Readable]

/-- Once it is filled in, a limit keeps its rule unless it was given and is below the request. -/
theorem limitRule_fill_eq_nil_iff {field : FieldPath} {name request usualLimit : String}
    {limit : Option String} :
    limitRule field name (some request) (some (limit.getD (limitFor request usualLimit))) = [] ↔
      ∀ l, limit = some l → Quantity.isLess l request = false := by
  cases limit <;> simp [limitRule]

/-- Filled resources have no problem iff they were sound before. -/
theorem problems_fill_eq_nil_iff (hp : p.Readable) :
    (r.fill p).problems path = [] ↔ r.Sound p := by
  -- rule by rule, what filling put in makes no difference to whether the rule is kept
  simp only [problems, fill, List.append_eq_nil_iff, limitRule_fill_eq_nil_iff,
    quantityRule_getD hp.cpu, quantityRule_getD (isSome_limitFor _ hp.cpuLimit),
    quantityRule_getD hp.memory, quantityRule_getD (isSome_limitFor _ hp.memoryLimit),
    quantityRule_getD hp.storage, quantityRule_eq_nil_iff]
  constructor
  · rintro ⟨⟨⟨⟨⟨⟨hc, hcl⟩, hm⟩, hml⟩, hs⟩, hcle⟩, hmle⟩
    exact ⟨hc, hcl, hm, hml, hs, hcle, hmle⟩
  · rintro ⟨hc, hcl, hm, hml, hs, hcle, hmle⟩
    exact ⟨⟨⟨⟨⟨⟨hc, hcl⟩, hm⟩, hml⟩, hs⟩, hcle⟩, hmle⟩

end Resources

end Nodewright
