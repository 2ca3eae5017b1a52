import Nodewright.FieldPath
import Nodewright.Text.Joined
import Nodewright.Text.Quoted

/-! # Violations and reports

A violation says which field breaks a rule, how, and with which value. A report is the list of all
violations of a spec in the order of the rules; the spec is valid if the report is empty. -/

namespace Nodewright

/-- How a field breaks a rule. -/
inductive Violation.Sort where
  | invalid
  | required
  | duplicate
deriving DecidableEq, Repr

/-- The value that is turned down. -/
inductive Violation.Value where
  | flag (b : Bool)
  | text (s : String)
deriving DecidableEq, Repr

/-- A rule that a field breaks. -/
structure Violation where
  sort : Violation.Sort
  field : FieldPath
  value : Violation.Value
  detail : String
deriving DecidableEq, Repr

namespace Violation

/-- The name of a sort. -/
def Sort.name : Violation.Sort → String
  | invalid => "Invalid"
  | required => "Required"
  | duplicate => "Duplicate"

/-- What a report says of a sort. -/
def Sort.text : Violation.Sort → String
  | invalid => "Invalid value"
  | required => "Required value"
  | duplicate => "Duplicate value"

/-- A value as a report shows it. -/
def Value.shown : Value → String
  | flag b => toString b
  | text s => Text.quoted s

/-- The field has a value that the rule does not allow. -/
def invalid (field : FieldPath) (value : Value) (detail : String) : Violation :=
  ⟨.invalid, field, value, detail⟩

/-- The field has no value, and needs one. -/
def required (field : FieldPath) (detail : String) : Violation :=
  ⟨.required, field, .text "", detail⟩

/-- The value stands elsewhere already. -/
def duplicate (field : FieldPath) (value : Value) : Violation :=
  ⟨.duplicate, field, value, ""⟩

/-- The field changed, and must not. -/
def immutable (field : FieldPath) (value : Value) : Violation :=
  invalid field value "field is immutable"

/-- A violation as text. -/
def text (v : Violation) : String :=
  v.field.text ++ ": " ++ v.sort.text ++ ": " ++ v.value.shown ++
    if v.detail = "" then "" else ": " ++ v.detail

end Violation

/-- All violations, in the order of the rules. -/
abbrev Report := List Violation

namespace Report

/-- The violation, if the condition holds. -/
def when (broken : Bool) (v : Violation) : Report := if broken then [v] else []

/-- What a value that may be missing breaks. -/
def ofSome {α : Type} (value : Option α) (rule : α → Report) : Report :=
  match value with
  | some a => rule a
  | none => []

/-- A report as text. -/
def text (r : Report) : String := "[" ++ Text.joinWith ", " (r.map Violation.text) ++ "]"

/-- The violations whose field has the given text. -/
def atField (r : Report) (field : String) : Report := r.filter fun v => v.field.text == field

@[simp] theorem when_true (v : Violation) : when true v = [v] := rfl

@[simp] theorem when_false (v : Violation) : when false v = [] := rfl

/-- Nothing is reported iff the rule is kept. -/
@[simp] theorem when_eq_nil {b : Bool} {v : Violation} : when b v = [] ↔ b = false := by
  cases b <;> simp [when]

/-- What is reported is the violation, and it is reported iff the rule is broken. -/
@[simp] theorem mem_when {b : Bool} {v w : Violation} : w ∈ when b v ↔ b = true ∧ w = v := by
  cases b <;> simp [when]

@[simp] theorem ofSome_none {α : Type} (rule : α → Report) : ofSome none rule = [] := rfl

@[simp] theorem ofSome_some {α : Type} (a : α) (rule : α → Report) :
    ofSome (some a) rule = rule a := rfl

end Report

end Nodewright
