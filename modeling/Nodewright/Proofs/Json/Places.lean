import Nodewright.Proofs.Json.Kept

/-!
# What two values have at the same place

Two values can be compared at a place, since equality of values is decidable. What stands at a place
is found step by step.

## Key results

- `same_iff`: the comparison of two values decides whether they are equal
- `at?_append`: a place behind another one
-/

namespace Nodewright.Json

open FieldPath (Step)

/-! ## Equality -/

mutual

/-- Whether two values are the same. -/
def same : Json → Json → Bool
  | null, null => true
  | bool b, bool c => b = c
  | number n, number m => n = m
  | string s, string t => s = t
  | array items, array items' => sameItems items items'
  | object entries, object entries' => sameEntries entries entries'
  | _, _ => false

/-- Whether two lists of items are the same. -/
def sameItems : List Json → List Json → Bool
  | [], [] => true
  | v :: rest, w :: rest' => same v w && sameItems rest rest'
  | _, _ => false

/-- Whether two lists of entries are the same. -/
def sameEntries : List (String × Json) → List (String × Json) → Bool
  | [], [] => true
  | (key, v) :: rest, (key', w) :: rest' => key = key' && same v w && sameEntries rest rest'
  | _, _ => false

end

mutual

/-- The comparison of two values decides whether they are equal. -/
theorem same_iff : (v w : Json) → (same v w = true ↔ v = w)
  | null, w => by cases w <;> simp [same]
  | bool b, w => by cases w <;> simp [same]
  | number n, w => by cases w <;> simp [same]
  | string s, w => by cases w <;> simp [same]
  | array items, w => by cases w <;> simp [same, sameItems_iff items]
  | object entries, w => by cases w <;> simp [same, sameEntries_iff entries]

/-- So does that of two lists of items. -/
theorem sameItems_iff : (items items' : List Json) →
    (sameItems items items' = true ↔ items = items')
  | [], items' => by cases items' <;> simp [sameItems]
  | v :: rest, items' => by cases items' <;> simp [sameItems, same_iff v, sameItems_iff rest]

/-- So does that of two lists of entries, names included. -/
theorem sameEntries_iff : (entries entries' : List (String × Json)) →
    (sameEntries entries entries' = true ↔ entries = entries')
  | [], entries' => by cases entries' <;> simp [sameEntries]
  | (key, v) :: rest, entries' => by
    cases entries' <;> simp [sameEntries, same_iff v, sameEntries_iff rest, Prod.ext_iff]

end

instance : DecidableEq Json := fun v w => decidable_of_iff _ (same_iff v w)

/-! ## Places -/

/-- What stands at a place behind another one. -/
theorem at?_append (path path' : List Step) (v : Json) :
    v.at? (path ++ path') = (v.at? path).bind (at? path') := by
  induction path generalizing v with
  | nil => rfl
  | cons step path ih =>
    -- what is behind the first step does not depend on the value around it
    have hrest : at? (path ++ path') = fun v => (v.at? path).bind (at? path') := funext ih
    cases step <;> cases v <;> simp [at?, Option.bind_assoc, hrest]

/-- What stands under a name of an object. -/
@[simp] theorem at?_object_child (entries : List (String × Json)) (name : String) :
    (object entries).at? [.child name] = lookupEntry name entries := by
  rw [at?]
  exact Option.bind_fun_some (lookupEntry name entries)

/-- An item of an array. -/
@[simp] theorem at?_array_index (items : List Json) (i : Nat) :
    (array items).at? [.index i] = items[i]? := by
  rw [at?]
  exact Option.bind_fun_some items[i]?

end Nodewright.Json
