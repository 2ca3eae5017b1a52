import Nodewright.Text.Joined

/-! # Closed vocabularies

A type with finitely many values, each of which has a name of its own. `Named.ofName?` finds the
value of a name, and `Named.ofName?_name` says that it undoes `Named.name`. -/

namespace Nodewright

/-- A type whose values are listed and have distinct names. -/
class Named (α : Type) where
  /-- The values, in the order in which they are offered to a reader. -/
  all : List α
  /-- The name of a value. -/
  name : α → String
  mem_all : ∀ a, a ∈ all
  name_injective : ∀ a b, name a = name b → a = b

namespace Named

variable {α : Type} [Named α]

/-- The value of a name. -/
def ofName? (s : String) : Option α := (all : List α).find? fun a => name a == s

/-- The names, in the order of the values. -/
def names (α : Type) [Named α] : List String := (all : List α).map name

/-- A value is found only by its own name. -/
theorem name_of_ofName? {s : String} {a : α} (h : ofName? s = some a) : name a = s := by
  simpa using List.find?_some h

@[simp] theorem ofName?_name (a : α) : ofName? (name a) = some a := by
  cases h : (ofName? (name a) : Option α) with
  | none => simpa using List.find?_eq_none.1 h a (mem_all a)
  | some b => rw [name_injective b a (name_of_ofName? h)]

end Named

end Nodewright
