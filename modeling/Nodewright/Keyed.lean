/-! # Maps from texts, in the order of their keys

`Keyed α` is a finite map from texts to `α`, kept as a list of entries with strictly increasing
keys. Texts are compared by code points, which is also the order of their bytes.

* `Keyed.get?`   the value under a key
* `Keyed.insert`   the map with one more entry, which replaces an older one of the same key
* `Keyed.erase`   the map without a key
* `Keyed.get?_insert_self`, `Keyed.get?_insert_of_ne`   what an insertion does to a look-up
* `Keyed.insert_of_get?`   an insertion of what is there already
* `Keyed.get?_insertAll`, `Keyed.get?_union`   what many insertions do to a look-up
* `Keyed.get?_erase_self`, `Keyed.get?_erase_of_ne`   what an erasure does to a look-up -/

namespace Nodewright

/-- The value of the first entry with the given key. -/
def lookupEntry {α : Type} (key : String) (entries : List (String × α)) : Option α :=
  (entries.find? fun e => e.1 == key).map (·.2)

/-- Puts an entry before the first entry with a larger key, in place of one with the same key. -/
def insertEntry {α : Type} (key : String) (value : α) : List (String × α) → List (String × α)
  | [] => [(key, value)]
  | (k, v) :: rest =>
    if key = k then (key, value) :: rest
    else if key < k then (key, value) :: (k, v) :: rest
    else (k, v) :: insertEntry key value rest

/-- Whether the keys of the entries increase strictly. -/
def KeysIncrease {α : Type} (entries : List (String × α)) : Prop :=
  entries.Pairwise fun a b => a.1 < b.1

/-- Nothing is found among no entries. -/
@[simp] theorem lookupEntry_nil {α : Type} (name : String) :
    lookupEntry name ([] : List (String × α)) = none := rfl

/-- The first entry is looked at first. -/
theorem lookupEntry_cons {α : Type} (name : String) (e : String × α)
    (entries : List (String × α)) :
    lookupEntry name (e :: entries) =
      if e.1 = name then some e.2 else lookupEntry name entries := by
  by_cases h : e.1 = name <;> simp [lookupEntry, h]

/-- The entries behind are looked at if nothing is found in front. -/
theorem lookupEntry_append {α : Type} (name : String) (es fs : List (String × α)) :
    lookupEntry name (es ++ fs) = (lookupEntry name es).or (lookupEntry name fs) := by
  rw [lookupEntry, List.find?_append, Option.map_or]
  rfl

/-- Nothing is found iff no entry has the key. -/
theorem lookupEntry_eq_none_iff {α : Type} {name : String} {entries : List (String × α)} :
    lookupEntry name entries = none ↔ name ∉ entries.map Prod.fst := by
  simp only [lookupEntry, Option.map_eq_none_iff, List.find?_eq_none, beq_iff_eq, List.mem_map,
    not_exists, not_and]

/-- An entry behind an insertion is the new one, or was there before. -/
theorem mem_insertEntry {α : Type} {key : String} {value : α} {entries : List (String × α)}
    {e : String × α} (h : e ∈ insertEntry key value entries) :
    e = (key, value) ∨ e ∈ entries := by
  induction entries with
  | nil => simpa [insertEntry] using h
  | cons x rest ih =>
    obtain ⟨k, v⟩ := x
    rw [insertEntry] at h
    split at h
    · simp only [List.mem_cons] at h ⊢
      rcases h with h | h
      · exact .inl h
      · exact .inr (.inr h)
    · split at h
      · simpa only [List.mem_cons] using h
      · simp only [List.mem_cons] at h ⊢
        rcases h with h | h
        · exact .inr (.inl h)
        · rcases ih h with h | h
          · exact .inl h
          · exact .inr (.inr h)

/-- An insertion keeps the keys in order. -/
theorem keysIncrease_insertEntry {α : Type} (key : String) (value : α)
    {entries : List (String × α)} (h : KeysIncrease entries) :
    KeysIncrease (insertEntry key value entries) := by
  unfold KeysIncrease at h ⊢
  induction entries with
  | nil => simp [insertEntry]
  | cons x rest ih =>
    obtain ⟨k, v⟩ := x
    -- the new entry stands in the place of the first one, in front of it, or further behind
    obtain ⟨first, increasing⟩ := List.pairwise_cons.1 h
    rw [insertEntry]
    split
    · next same => exact List.pairwise_cons.2 ⟨fun e he => same ▸ first e he, increasing⟩
    · next differ =>
      split
      · next less =>
        refine List.pairwise_cons.2 ⟨fun e he => ?_, h⟩
        rcases List.mem_cons.1 he with rfl | he
        · exact less
        · exact String.lt_trans less (first e he)
      · next notLess =>
        refine List.pairwise_cons.2 ⟨fun e he => ?_, ih increasing⟩
        rcases mem_insertEntry he with rfl | he
        -- keys are compared both ways before it is decided that the new one is larger
        · rcases Decidable.em (k < key) with below | notBelow
          · exact below
          · exact absurd (String.le_antisymm (String.not_lt.1 notBelow) (String.not_lt.1 notLess))
              differ
        · exact first e he

/-- The new entry is found. -/
theorem lookupEntry_insertEntry_self {α : Type} (key : String) (value : α)
    (entries : List (String × α)) :
    lookupEntry key (insertEntry key value entries) = some value := by
  induction entries with
  | nil => simp [lookupEntry, insertEntry]
  | cons x rest ih =>
    obtain ⟨k, v⟩ := x
    rw [insertEntry]
    split
    · simp [lookupEntry]
    · next differ =>
      split
      · simp [lookupEntry]
      · have : (k == key) = false := by simpa using fun h => differ h.symm
        simpa [lookupEntry, List.find?_cons, this] using ih

/-- Entries of other keys are found as before. -/
theorem lookupEntry_insertEntry_of_ne {α : Type} {key other : String} (value : α)
    (entries : List (String × α)) (differ : other ≠ key) :
    lookupEntry other (insertEntry key value entries) = lookupEntry other entries := by
  -- wherever the new entry stands, it is passed over
  have skip : (key == other) = false := by simpa using fun h => differ h.symm
  induction entries with
  | nil => simp [lookupEntry, insertEntry, skip]
  | cons x rest ih =>
    obtain ⟨k, v⟩ := x
    rw [insertEntry]
    split
    · next same =>
      subst same
      simp [lookupEntry, skip]
    · split
      · simp [lookupEntry, List.find?_cons, skip]
      · simp only [lookupEntry, List.find?_cons] at ih ⊢
        cases (k == other)
        · exact ih
        · rfl

/-- An entry that is there already is put in its own place. -/
theorem insertEntry_of_lookupEntry {α : Type} {key : String} {value : α}
    {entries : List (String × α)} (increasing : KeysIncrease entries)
    (found : lookupEntry key entries = some value) :
    insertEntry key value entries = entries := by
  induction entries with
  | nil => exact nomatch found
  | cons x rest ih =>
    obtain ⟨k, v⟩ := x
    obtain ⟨first, increasing⟩ := List.pairwise_cons.1 increasing
    rw [lookupEntry_cons] at found
    rw [insertEntry]
    split
    · next same =>
      rw [if_pos same.symm] at found
      obtain rfl : v = value := Option.some.inj found
      rw [same]
    · next differ =>
      rw [if_neg fun same => differ same.symm] at found
      -- the key stands further behind, so it is larger than the first one
      have larger : k < key := by
        obtain ⟨e, he, -⟩ := Option.map_eq_some_iff.1 found
        have same : e.1 = key := by simpa using List.find?_some he
        exact same ▸ first e (List.mem_of_find?_eq_some he)
      rw [if_neg (String.lt_asymm larger), ih increasing found]

/-- A key that has been erased is not found. -/
theorem lookupEntry_filter_self {α : Type} (key : String) (entries : List (String × α)) :
    lookupEntry key (entries.filter fun e => e.1 != key) = none := by
  simp [lookupEntry, List.find?_filter]

/-- Other keys are found as before. -/
theorem lookupEntry_filter_of_ne {α : Type} {key other : String} (entries : List (String × α))
    (differ : other ≠ key) :
    lookupEntry other (entries.filter fun e => e.1 != key) = lookupEntry other entries := by
  -- an entry that is looked for is none of those that were dropped
  have keep (e : String × α) :
      decide ((e.1 != key) = true ∧ (e.1 == other) = true) = (e.1 == other) := by
    by_cases same : e.1 = other
    · simp [same, differ]
    · simp [same]
  simp only [lookupEntry, List.find?_filter, keep]

/-- No key comes twice, so it does not matter from which end a key is looked for. -/
theorem lookupEntry_reverse {α : Type} (key : String) {entries : List (String × α)}
    (increasing : KeysIncrease entries) :
    lookupEntry key entries.reverse = lookupEntry key entries := by
  induction entries with
  | nil => rfl
  | cons e rest ih =>
    obtain ⟨first, increasing⟩ := List.pairwise_cons.1 increasing
    rw [List.reverse_cons, lookupEntry_append, ih increasing, lookupEntry_cons]
    by_cases same : e.1 = key
    · -- the keys behind the first one are larger
      have missing : lookupEntry key rest = none := by
        rw [lookupEntry_eq_none_iff]
        intro found
        obtain ⟨other, he, heq⟩ := List.mem_map.1 found
        have larger := first other he
        rw [heq, same] at larger
        exact String.lt_irrefl key larger
      rw [missing, Option.none_or, lookupEntry_cons, if_pos same, if_pos same]
    · rw [lookupEntry_cons, if_neg same, if_neg same, lookupEntry_nil, Option.or_none]

/-- A finite map from texts, as entries with strictly increasing keys. -/
structure Keyed (α : Type) where
  entries : List (String × α)
  increasing : KeysIncrease entries

namespace Keyed

variable {α : Type}

/-- The map without entries. -/
def empty : Keyed α := ⟨[], List.Pairwise.nil⟩

instance : Inhabited (Keyed α) := ⟨empty⟩

/-- Maps are the same if their entries are. -/
@[ext] theorem ext {m n : Keyed α} (h : m.entries = n.entries) : m = n := by
  cases m; cases n; cases h; rfl

instance [DecidableEq α] : DecidableEq (Keyed α) := fun m n =>
  decidable_of_iff (m.entries = n.entries) ⟨ext, fun h => h ▸ rfl⟩

/-- The value under a key. -/
def get? (m : Keyed α) (key : String) : Option α := lookupEntry key m.entries

/-- The map with one more entry, which replaces an older one of the same key. -/
def insert (m : Keyed α) (key : String) (value : α) : Keyed α :=
  ⟨insertEntry key value m.entries, keysIncrease_insertEntry key value m.increasing⟩

/-- The map without a key. -/
def erase (m : Keyed α) (key : String) : Keyed α :=
  ⟨m.entries.filter fun e => e.1 != key, m.increasing.filter _⟩

/-- Inserts the entries one after the other, so that a later one of the same key wins. -/
def insertAll (m : Keyed α) (entries : List (String × α)) : Keyed α :=
  entries.foldl (fun m e => m.insert e.1 e.2) m

/-- The map of the entries, of which the last one of a key wins. -/
def ofEntries (entries : List (String × α)) : Keyed α := empty.insertAll entries

/-- Puts the entries of the second map over those of the first. -/
def union (m n : Keyed α) : Keyed α := m.insertAll n.entries

/-- The empty map has no values. -/
@[simp] theorem get?_empty (key : String) : (empty : Keyed α).get? key = none := rfl

/-- A key has the value that was put in last. -/
@[simp] theorem get?_insert_self (m : Keyed α) (key : String) (value : α) :
    (m.insert key value).get? key = some value :=
  lookupEntry_insertEntry_self key value m.entries

/-- An insertion leaves other keys alone. -/
theorem get?_insert_of_ne (m : Keyed α) {key other : String} (value : α) (h : other ≠ key) :
    (m.insert key value).get? other = m.get? other :=
  lookupEntry_insertEntry_of_ne value m.entries h

/-- To put in a value that is there already changes nothing. -/
theorem insert_of_get? {m : Keyed α} {key : String} {value : α} (h : m.get? key = some value) :
    m.insert key value = m :=
  ext (insertEntry_of_lookupEntry m.increasing h)

/-- Of many insertions the last one under a key counts. -/
theorem get?_insertAll (m : Keyed α) (entries : List (String × α)) (key : String) :
    (m.insertAll entries).get? key = (lookupEntry key entries.reverse).or (m.get? key) := by
  induction entries generalizing m with
  | nil => rfl
  | cons e rest ih =>
    have step : m.insertAll (e :: rest) = (m.insert e.1 e.2).insertAll rest := rfl
    rw [step, ih, List.reverse_cons, lookupEntry_append, Option.or_assoc, lookupEntry_cons,
      lookupEntry_nil]
    by_cases same : e.1 = key
    · rw [if_pos same, ← same, get?_insert_self, Option.some_or]
    · rw [if_neg same, Option.none_or, get?_insert_of_ne m e.2 (Ne.symm same)]

/-- The entries of the second map stand over those of the first. -/
theorem get?_union (m n : Keyed α) (key : String) :
    (m.union n).get? key = (n.get? key).or (m.get? key) := by
  rw [union, get?_insertAll, lookupEntry_reverse key n.increasing]
  rfl

/-- An erased key has no value. -/
@[simp] theorem get?_erase_self (m : Keyed α) (key : String) : (m.erase key).get? key = none :=
  lookupEntry_filter_self key m.entries

/-- An erasure leaves other keys alone. -/
theorem get?_erase_of_ne (m : Keyed α) {key other : String} (h : other ≠ key) :
    (m.erase key).get? other = m.get? other :=
  lookupEntry_filter_of_ne m.entries h

end Keyed

end Nodewright
