import Nodewright.Proofs.Quantity.Order
import Nodewright.Resources

/-!
# Limits and storage by value

Resources are turned down for a limit below its request and for storage that shrinks. Both are
comparisons of quantities, so what such a violation says of the values is what the comparison does:
the rules ask for a limit that is at least the request and for storage that is at least the old one,
and they see amounts that have been rounded.

## Key results

- `mem_problems_cpuLimit_iff`, `mem_problems_memoryLimit_iff`, `mem_transitions_storage_iff`: a
  violation of these rules is one comparison
- `Resources.reports_judgedByValue`: how far the comparison and the violations agree with the values
- `Resources.exists_equal_limit_reported`, `Resources.exists_equal_storage_reported`: equal amounts
  that are turned down, since they are written with different suffixes
- `Resources.exists_smaller_not_reported`: a smaller amount that passes
- `Resources.exists_not_judgedByValue`: so the values alone do not decide
-/

namespace Nodewright

open Quantity (isLess ofText?)

namespace Resources

variable {a old new : Resources} {path : FieldPath} {s t : String} {q r : Quantity}

/-! ## Violations that are comparisons -/

/-- What can be read has no problem by itself. -/
theorem quantityRule_of_ofText? (field : FieldPath) (hs : ofText? s = some q) :
    quantityRule field (some s) = [] := by
  simp [quantityRule, hs]

/-- The rule on a quantity reports its field. -/
theorem field_of_mem_quantityRule {field : FieldPath} {value : Option String} {v : Violation}
    (h : v ∈ quantityRule field value) : v.field = field := by
  cases value with
  | none => exact nomatch h
  | some s =>
    obtain ⟨-, rfl⟩ := Report.mem_when.1 h
    rfl

/-- The rule on a limit reports the field of the limit. -/
theorem field_of_mem_limitRule {field : FieldPath} {name : String} {request limit : Option String}
    {v : Violation} (h : v ∈ limitRule field name request limit) : v.field = field := by
  cases request with
  | none => exact nomatch h
  | some t =>
    cases limit with
    | none => exact nomatch h
    | some s =>
      obtain ⟨-, rfl⟩ := Report.mem_when.1 h
      rfl

/-- A violation of a quantity at one child is not among those at another. -/
theorem not_mem_quantityRule {name other : String} {value : Option String} {v : Violation}
    (hv : v.field = path.child name) (hne : name ≠ other) :
    v ∉ quantityRule (path.child other) value := fun h =>
  hne (FieldPath.child_injective (hv.symm.trans (field_of_mem_quantityRule h))).2

/-- A violation of a limit at one child is not among those at another. -/
theorem not_mem_limitRule {name other label : String} {request limit : Option String}
    {v : Violation} (hv : v.field = path.child name) (hne : name ≠ other) :
    v ∉ limitRule (path.child other) label request limit := fun h =>
  hne (FieldPath.child_injective (hv.symm.trans (field_of_mem_limitRule h))).2

/-- The violation of a limit that is below its request. -/
def limitViolation (field : FieldPath) (name request limit : String) : Violation :=
  .invalid field (.text limit) ("must be greater than or equal to " ++ name ++ " " ++ request)

/-- The violation of storage that shrinks. -/
def storageViolation (field : FieldPath) (before after : String) : Violation :=
  .invalid field (.text after) ("must be greater than or equal to old storage " ++ before)

/-- The rule on a limit makes one comparison. -/
@[simp] theorem mem_limitRule_iff {field : FieldPath} {name : String} :
    limitViolation field name t s ∈ limitRule field name (some t) (some s) ↔ isLess s t = true := by
  simp [limitRule, limitViolation]

/-- The limit of the processor is compared with its request, and that is all. -/
theorem mem_problems_cpuLimit_iff (hs : ofText? s = some q) (hlimit : a.cpuLimit = some s)
    (hrequest : a.cpu = some t) :
    limitViolation (path.child "cpuLimit") "cpu" t s ∈ a.problems path ↔ isLess s t = true := by
  have hfield : (limitViolation (path.child "cpuLimit") "cpu" t s).field = path.child "cpuLimit" :=
    rfl
  -- the other rules report other fields, and the limit itself can be read
  simp (disch := decide) only [problems, hlimit, hrequest, List.mem_append, List.not_mem_nil,
    quantityRule_of_ofText? _ hs, not_mem_quantityRule hfield, not_mem_limitRule hfield,
    mem_limitRule_iff, false_or, or_false]

/-- And so is the limit of the memory. -/
theorem mem_problems_memoryLimit_iff (hs : ofText? s = some q) (hlimit : a.memoryLimit = some s)
    (hrequest : a.memory = some t) :
    limitViolation (path.child "memoryLimit") "memory" t s ∈ a.problems path ↔
      isLess s t = true := by
  have hfield : (limitViolation (path.child "memoryLimit") "memory" t s).field =
      path.child "memoryLimit" := rfl
  simp (disch := decide) only [problems, hlimit, hrequest, List.mem_append, List.not_mem_nil,
    quantityRule_of_ofText? _ hs, not_mem_quantityRule hfield, not_mem_limitRule hfield,
    mem_limitRule_iff, false_or]

/-- Storage is compared with the older one, and that is all. -/
theorem mem_transitions_storage_iff (hnew : new.storage = some s) (hold : old.storage = some t) :
    storageViolation (path.child "storage") t s ∈ transitions old new path ↔
      isLess s t = true := by
  -- the other rule on changes reports the storage class
  have hclass : ∀ value, storageViolation (path.child "storage") t s ≠
      .immutable (path.child "storageClass") value := fun value h =>
    absurd (FieldPath.child_injective (congrArg Violation.field h)).2 (by decide)
  simp only [transitions, storageRule, hnew, hold, Report.ofSome_some, List.mem_append,
    Report.mem_when, hclass, and_false, or_false]
  exact and_iff_left rfl

/-! ## Reports by value -/

/-- Wherever two quantities are compared, the values decide if rounding cannot confuse them, and a
    violation is never reported wrongly if both are rounded in the same way. -/
theorem reports_judgedByValue (hs : ofText? s = some q) (ht : ofText? t = some r) :
    q.JudgedByValue r (isLess s t = true) ∧
      (∀ (a : Resources) (path : FieldPath), a.cpuLimit = some s → a.cpu = some t →
        q.JudgedByValue r
          (limitViolation (path.child "cpuLimit") "cpu" t s ∈ a.problems path)) ∧
      (∀ (a : Resources) (path : FieldPath), a.memoryLimit = some s → a.memory = some t →
        q.JudgedByValue r
          (limitViolation (path.child "memoryLimit") "memory" t s ∈ a.problems path)) ∧
      (∀ (old new : Resources) (path : FieldPath), new.storage = some s → old.storage = some t →
        q.JudgedByValue r
          (storageViolation (path.child "storage") t s ∈ transitions old new path)) := by
  have hless := Quantity.judgedByValue_isLess hs ht
  refine ⟨hless, fun a path hlimit hrequest => ?_, fun a path hlimit hrequest => ?_,
    fun old new path hnew hold => ?_⟩
  · exact hless.congr (mem_problems_cpuLimit_iff hs hlimit hrequest)
  · exact hless.congr (mem_problems_memoryLimit_iff hs hlimit hrequest)
  · exact hless.congr (mem_transitions_storage_iff hnew hold)

/-- Resources with nothing but memory and its limit. -/
def withMemory (request limit : String) : Resources :=
  { none with memory := some request, memoryLimit := some limit }

/-- Resources with nothing but storage. -/
def withStorage (size : String) : Resources := { none with storage := some size }

/-- A gibibyte and a half is below two gibibytes, in whatever unit it is written. -/
theorem reports_judgedByValue_withMemory :
    ofText? "1536Mi" = some ⟨1536, 0, .mebi⟩ ∧ ofText? "2Gi" = some ⟨2, 0, .gibi⟩ ∧
      Quantity.Distinguishable ⟨1536, 0, .mebi⟩ ⟨2, 0, .gibi⟩ ∧
      limitViolation ((FieldPath.field "resources").child "memoryLimit") "memory" "2Gi" "1536Mi" ∈
        (withMemory "2Gi" "1536Mi").problems (.field "resources") := by
  have hs : ofText? "1536Mi" = some ⟨1536, 0, .mebi⟩ := by decide +kernel
  have ht : ofText? "2Gi" = some ⟨2, 0, .gibi⟩ := by decide +kernel
  have hapart : Quantity.Distinguishable ⟨1536, 0, .mebi⟩ ⟨2, 0, .gibi⟩ :=
    .exact (.of_whole (k := 20) (by decide) rfl) (.of_whole (k := 30) (by decide) rfl)
  have hjudged := (reports_judgedByValue hs ht).2.2.1 (withMemory "2Gi" "1536Mi")
    (.field "resources") rfl rfl
  have hlt : Quantity.value ⟨1536, 0, .mebi⟩ < Quantity.value ⟨2, 0, .gibi⟩ :=
    Quantity.value_lt_iff.2 (by decide)
  exact ⟨hs, ht, hapart, (hjudged.iff_lt hapart).2 hlt⟩

/-- Resources with nothing but a processor request and its limit. -/
def withProcessor (request limit : String) : Resources :=
  { none with cpu := some request, cpuLimit := some limit }

/-- A limit may be turned down that is as large as its request: `2300m` is rounded to a double that
    is above that of `2.3`. -/
theorem exists_equal_limit_reported :
    ∃ (s t : String) (q r : Quantity), ofText? s = some q ∧ ofText? t = some r ∧
      q.value = r.value ∧ isLess s t = true ∧
      (withProcessor t s).problems (.field "resources") =
        [limitViolation ((FieldPath.field "resources").child "cpuLimit") "cpu" t s] :=
  ⟨"2.3", "2300m", ⟨23, 1, .one⟩, ⟨2300, 0, .milli⟩, by decide +kernel, by decide +kernel,
    Quantity.value_eq_iff.2 (by decide), by decide +kernel, by decide +kernel⟩

/-- Storage may be said to shrink that is as large as before: `4.1G` is rounded to a double that is
    below the whole number `4100M`. -/
theorem exists_equal_storage_reported :
    ∃ (s t : String) (q r : Quantity), ofText? s = some q ∧ ofText? t = some r ∧
      q.value = r.value ∧ isLess s t = true ∧
      transitions (withStorage t) (withStorage s) (.field "resources") =
        [storageViolation ((FieldPath.field "resources").child "storage") t s] :=
  ⟨"4.1G", "4100M", ⟨41, 1, .giga⟩, ⟨4100, 0, .mega⟩, by decide +kernel, by decide +kernel,
    Quantity.value_eq_iff.2 (by decide), by decide +kernel, by decide +kernel⟩

/-- Two whole numbers of 54 bits are the same as doubles, so neither rule sees their difference. -/
theorem exists_smaller_not_reported :
    ∃ (s t : String) (q r : Quantity), ofText? s = some q ∧ ofText? t = some r ∧
      q.value < r.value ∧ isLess s t = false ∧
      (withMemory t s).problems (.field "resources") = [] ∧
      transitions (withStorage t) (withStorage s) (.field "resources") = [] :=
  ⟨"9007199254740992", "9007199254740993", ⟨9007199254740992, 0, .one⟩,
    ⟨9007199254740993, 0, .one⟩, by decide +kernel, by decide +kernel,
    Quantity.value_lt_iff.2 (by decide), by decide +kernel, by decide +kernel, by decide +kernel⟩

/-- The values do not decide what is reported, in either direction: equal amounts in two decimal
    suffixes are taken for a limit below its request and for storage that shrinks, and a smaller
    amount with the suffix of the larger one is taken for equal. -/
theorem exists_not_judgedByValue :
    (∃ (s t : String) (q r : Quantity), ofText? s = some q ∧ ofText? t = some r ∧
      q.value = r.value ∧ isLess s t = true ∧
      (withProcessor t s).problems (.field "resources") =
        [limitViolation ((FieldPath.field "resources").child "cpuLimit") "cpu" t s]) ∧
    (∃ (s t : String) (q r : Quantity), ofText? s = some q ∧ ofText? t = some r ∧
      q.value = r.value ∧ isLess s t = true ∧
      transitions (withStorage t) (withStorage s) (.field "resources") =
        [storageViolation ((FieldPath.field "resources").child "storage") t s]) ∧
    (∃ (s t : String) (q r : Quantity), ofText? s = some q ∧ ofText? t = some r ∧
      q.value < r.value ∧ isLess s t = false ∧
      (withMemory t s).problems (.field "resources") = [] ∧
      transitions (withStorage t) (withStorage s) (.field "resources") = []) :=
  ⟨exists_equal_limit_reported, exists_equal_storage_reported, exists_smaller_not_reported⟩

end Resources

end Nodewright
