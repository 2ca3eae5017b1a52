import Nodewright.Proofs.Json.Kept
import Nodewright.Proofs.Json.RoundTrip

/-!
# Values in another arrangement

Nothing but the order of the entries of objects tells two arrangements of a value apart. A function
that rearranges values is known by what it does to a scalar, to an array, and to an object in which
no name stands twice; so what is read from a value can be shown to be the same in every arrangement
without a look at the order.

## Key results

- `Rearranges.id`: the order as it is
- `Rearranges.canonical`: the order of the names
-/

namespace Nodewright

/-- No name stands twice. -/
def DistinctKeys {α : Type} (entries : List (String × α)) : Prop := (entries.map Prod.fst).Nodup

/-- Entries whose names increase have distinct names. -/
theorem KeysIncrease.distinctKeys {α : Type} {entries : List (String × α)}
    (h : KeysIncrease entries) : DistinctKeys entries := by
  rw [DistinctKeys, List.Nodup, List.pairwise_map]
  refine h.imp ?_
  intro a b hlt heq
  rw [heq] at hlt
  exact String.lt_irrefl _ hlt

namespace Json

/-- A function that may put the entries of objects in another order, at every depth, and changes
    nothing else. -/
structure Rearranges (f : Json → Json) : Prop where
  scalar : ∀ v, v.isScalar = true → f v = v
  array : ∀ items, f (array items) = .array (items.map f)
  object : ∀ entries, DistinctKeys entries → ∃ entries', f (object entries) = .object entries' ∧
    DistinctKeys entries' ∧
      ∀ name, lookupEntry name entries' = (lookupEntry name entries).map f
  plain : ∀ depth v, v.Plain depth → (f v).Plain depth

/-- The order as it is, is an arrangement. -/
theorem Rearranges.id : Rearranges id where
  scalar _ _ := rfl
  array items := by rw [List.map_id]; rfl
  object entries h := ⟨entries, rfl, h, fun name => by rw [Option.map_id]; rfl⟩
  plain _ _ h := h

/-! ## The order of the names -/

/-- The items of an array stay in their order, each in its canonical form. -/
theorem canonicalItems_eq_map (items : List Json) : canonicalItems items = items.map canonical := by
  induction items with
  | nil => rfl
  | cons item items ih => rw [canonicalItems, ih, List.map_cons]

/-- The entries of an object end up in the order of their names. -/
theorem keysIncrease_canonicalEntries (entries : List (String × Json))
    {done : List (String × Json)} (h : KeysIncrease done) :
    KeysIncrease (canonicalEntries entries done) := by
  -- the entries are inserted one after the other, so the induction is over any that are there
  -- already
  induction entries generalizing done with
  | nil => exact h
  | cons e entries ih =>
    obtain ⟨key, v⟩ := e
    exact ih (keysIncrease_insertEntry key v.canonical h)

/-- Every entry of a canonical form is the canonical form of an entry. -/
theorem mem_canonicalEntries {entries done : List (String × Json)} {e : String × Json}
    (h : e ∈ canonicalEntries entries done) :
    e ∈ done ∨ ∃ e' ∈ entries, e.2 = e'.2.canonical := by
  induction entries generalizing done with
  | nil => exact .inl h
  | cons e' entries ih =>
    obtain ⟨key, v⟩ := e'
    rcases ih h with h | ⟨e', he', heq⟩
    · rcases mem_insertEntry h with rfl | h
      · exact .inr ⟨(key, v), List.mem_cons_self, rfl⟩
      · exact .inl h
    · exact .inr ⟨e', List.mem_cons_of_mem _ he', heq⟩

/-- What stands under a name once the entries are put in order, where no name comes twice. -/
theorem lookupEntry_canonicalEntries (name : String) {entries : List (String × Json)}
    (h : DistinctKeys entries) (done : List (String × Json)) :
    lookupEntry name (canonicalEntries entries done) =
      ((lookupEntry name entries).map canonical).or (lookupEntry name done) := by
  induction entries generalizing done with
  | nil => rfl
  | cons e entries ih =>
    obtain ⟨key, v⟩ := e
    obtain ⟨hkey, hrest⟩ := List.nodup_cons.1 h
    rw [canonicalEntries, ih hrest, lookupEntry_cons]
    by_cases hname : key = name
    · subst hname
      rw [lookupEntry_eq_none_iff.2 hkey, lookupEntry_insertEntry_self, if_pos rfl]
      rfl
    · rw [if_neg hname, lookupEntry_insertEntry_of_ne _ _ (Ne.symm hname)]

/-- The canonical form of a value is as plain, and nested as deeply, as the value itself. -/
theorem Plain.canonical {depth : Nat} {v : Json} (h : v.Plain depth) :
    v.canonical.Plain depth := by
  -- induction on how the value is built; only arrays and objects are changed inside
  induction h with
  | null => exact .null
  | bool b => exact .bool b
  | natural n => exact .natural n
  | string s => exact .string s
  | array _ ih =>
    rw [Json.canonical, canonicalItems_eq_map]
    refine .array fun item hitem => ?_
    obtain ⟨item', hitem', rfl⟩ := List.mem_map.1 hitem
    exact ih item' hitem'
  | object _ ih =>
    rw [Json.canonical]
    refine .object fun e he => ?_
    -- an entry of the result comes from one of the object, since there was none before
    rcases mem_canonicalEntries he with he | ⟨e', he', heq⟩
    · exact nomatch he
    · rw [heq]
      exact ih e' he'

/-- The order of the names is another arrangement. -/
theorem Rearranges.canonical : Rearranges canonical where
  scalar v h := by cases v <;> first | rfl | exact nomatch h
  array items := by rw [Json.canonical, canonicalItems_eq_map]
  object entries h := by
    refine ⟨canonicalEntries entries [], by rw [Json.canonical], ?_, fun name => ?_⟩
    · exact (keysIncrease_canonicalEntries entries List.Pairwise.nil).distinctKeys
    · rw [lookupEntry_canonicalEntries name h, lookupEntry_nil, Option.or_none]
  plain _ _ h := h.canonical

end Json

end Nodewright
