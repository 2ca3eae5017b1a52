/-! # Paths of fields

A path names a place in a spec: a root, and from there the children and indices that lead to the
place, as in `spec.nodes[0].bootnode`. -/

namespace Nodewright

/-- One step of a path. -/
inductive FieldPath.Step where
  | child (name : String)
  | index (i : Nat)
deriving DecidableEq, Repr

/-- A place in a spec. -/
structure FieldPath where
  root : String
  steps : List FieldPath.Step
deriving DecidableEq, Repr

namespace FieldPath

/-- How a step is written behind a path. -/
def Step.text : Step → String
  | child name => "." ++ name
  | index i => "[" ++ toString i ++ "]"

/-- The path that stops at its root. -/
def ofRoot (root : String) : FieldPath := ⟨root, []⟩

/-- The root of every spec. -/
def spec : FieldPath := ofRoot "spec"

/-- One step further. -/
def step (p : FieldPath) (s : Step) : FieldPath := { p with steps := p.steps ++ [s] }

/-- The named child of a place. -/
def child (p : FieldPath) (name : String) : FieldPath := p.step (.child name)

/-- The item of a place. -/
def index (p : FieldPath) (i : Nat) : FieldPath := p.step (.index i)

/-- A field of a spec. -/
def field (name : String) : FieldPath := spec.child name

/-- The path as text. -/
def text (p : FieldPath) : String := p.root ++ String.join (p.steps.map Step.text)

@[simp] theorem steps_field (name : String) : (field name).steps = [.child name] := rfl

@[simp] theorem steps_child (p : FieldPath) (name : String) :
    (p.child name).steps = p.steps ++ [.child name] := rfl

@[simp] theorem steps_index (p : FieldPath) (i : Nat) :
    (p.index i).steps = p.steps ++ [.index i] := rfl

/-- A child tells its parent, and its name. -/
theorem child_injective {p q : FieldPath} {a b : String} (h : p.child a = q.child b) :
    p = q ∧ a = b := by
  cases p; cases q
  simp only [child, step, mk.injEq] at h
  obtain ⟨rfl, steps⟩ := h
  obtain ⟨rfl, last⟩ := List.append_inj' steps rfl
  simpa using last

end FieldPath

end Nodewright
