import Mathlib.Data.List.Forall2
import Nodewright.Codec.Record
import Nodewright.FieldPath

/-!
# Settings that stay in a JSON value

A setting is a scalar that stands somewhere in a value, or a list of scalars that is not empty.
`Json.Keeps v w` says that every setting of `v` stands at the same place in `w`. It is proved from
the inside to the outside: for objects entry by entry, as long as no name stands there twice.

## Key results

- `Keeps.object`: an object keeps what its entries keep
- `Keeps.array`: an array keeps what its items keep
- `EntriesKeep.append`, `EntriesKeep.member`: the entries of a record, member by member
-/

namespace Nodewright

open FieldPath (Step)

namespace Json

/-! ## Places in a value -/

/-- What stands at a place of a value. -/
def at? : List Step → Json → Option Json
  | [], v => some v
  | .child name :: rest, .object entries => (lookupEntry name entries).bind (at? rest)
  | .index i :: rest, .array items => items[i]?.bind (at? rest)
  | _ :: _, _ => none

/-- Whether a value has nothing inside it. -/
def isScalar : Json → Bool
  | array _ => false
  | object _ => false
  | _ => true

/-- Whether a value is a setting: a scalar, or some scalars in a list. -/
def isSetting : Json → Bool
  | array items => !items.isEmpty && items.all isScalar
  | v => v.isScalar

/-- A scalar is a setting by itself. -/
theorem isSetting_of_isScalar {v : Json} (h : v.isScalar = true) : v.isSetting = true := by
  cases v <;> simp_all [isSetting, isScalar]

/-- Every setting of the first value stands at the same place in the second. -/
def Keeps (v w : Json) : Prop :=
  ∀ path x, v.at? path = some x → x.isSetting = true → w.at? path = some x

/-- The same, for values that may be missing. -/
def OptionKeeps (v w : Option Json) : Prop := ∀ a, v = some a → ∃ b, w = some b ∧ a.Keeps b

/-- The same, for entries of objects whose names are among the given ones. Where the names are
    distinct, the first entry of a name is the only one. -/
structure EntriesKeep (names : List String) (es fs : List (String × Json)) : Prop where
  name_mem : ∀ e ∈ fs, e.1 ∈ names
  keeps : names.Nodup → ∀ name, OptionKeeps (lookupEntry name es) (lookupEntry name fs)

/-! ## Values -/

private theorem exists_getElem?_of_forall₂ {R : Json → Json → Prop} {items items' : List Json}
    (h : List.Forall₂ R items items') {i : Nat} {a : Json} (ha : items[i]? = some a) :
    ∃ b, items'[i]? = some b ∧ R a b := by
  induction h generalizing i with
  | nil => exact nomatch ha
  | cons hitem _ ih =>
    cases i with
    | zero =>
      obtain rfl := Option.some.inj ha
      exact ⟨_, rfl, hitem⟩
    | succ i => exact ih ha

namespace Keeps

/-- A value keeps its own settings. -/
theorem refl (v : Json) : v.Keeps v := fun _ _ h _ => h

/-- A scalar that is kept stays what it is. -/
theorem eq_of_isScalar {v w : Json} (h : v.Keeps w) (hv : v.isScalar = true) : w = v := by
  have hroot : w.at? [] = some v := h [] v rfl (isSetting_of_isScalar hv)
  exact Option.some.inj hroot

/-- An object keeps what its entries keep. -/
theorem object {names : List String} {es fs : List (String × Json)}
    (h : EntriesKeep names es fs) (hnames : names.Nodup) : (object es).Keeps (object fs) := by
  intro path x hx hsetting
  -- by the first step: only a name leads into an object
  match path with
  | [] =>
    -- an object is not a setting itself
    obtain rfl : Json.object es = x := Option.some.inj hx
    exact nomatch hsetting
  | .child name :: rest =>
    obtain ⟨a, ha, hx⟩ := Option.bind_eq_some_iff.1 hx
    obtain ⟨b, hb, hkeeps⟩ := h.keeps hnames name a ha
    exact Option.bind_eq_some_iff.2 ⟨b, hb, hkeeps rest x hx hsetting⟩
  | .index _ :: _ => exact nomatch hx

/-- An array keeps what its items keep. -/
theorem array {items items' : List Json} (h : List.Forall₂ Keeps items items') :
    (array items).Keeps (array items') := by
  -- by the first step: the list itself may be a setting, and only a number leads into it
  intro path x hx hsetting
  match path with
  | [] =>
    obtain rfl : Json.array items = x := Option.some.inj hx
    -- a list of scalars is kept as a whole
    have hscalars : items.all isScalar = true := (Bool.and_eq_true_iff.1 hsetting).2
    have hsame : items' = items := by
      clear hx hsetting
      induction h with
      | nil => rfl
      | cons hitem _ ih =>
        obtain ⟨hscalar, hrest⟩ := Bool.and_eq_true_iff.1 hscalars
        rw [hitem.eq_of_isScalar hscalar, ih hrest]
    rw [hsame]; rfl
  | .child _ :: _ => exact nomatch hx
  | .index i :: rest =>
    -- the item at the place is kept by the one at the same place
    obtain ⟨a, ha, hx⟩ := Option.bind_eq_some_iff.1 hx
    obtain ⟨b, hb, hkeeps⟩ := exists_getElem?_of_forall₂ h ha
    exact Option.bind_eq_some_iff.2 ⟨b, hb, hkeeps rest x hx hsetting⟩

end Keeps

/-! ## Values that may be missing -/

namespace OptionKeeps

/-- So does a value that may be missing. -/
theorem refl (v : Option Json) : OptionKeeps v v := fun a ha => ⟨a, ha, .refl a⟩

/-- A value that is missing has no settings to keep. -/
theorem none (w : Option Json) : OptionKeeps none w := fun _ ha => nomatch ha

/-- A value that is there has to be kept by another one. -/
theorem some {v w : Json} (h : v.Keeps w) : OptionKeeps (some v) (some w) := by
  rintro a ⟨⟩
  exact ⟨w, rfl, h⟩

end OptionKeeps

/-! ## Entries -/

namespace EntriesKeep

variable {names names' : List String} {es fs es' fs' : List (String × Json)}

/-- Without entries there is nothing to keep. -/
theorem nil : EntriesKeep [] [] [] := ⟨fun _ he => (nomatch he), fun _ _ => OptionKeeps.refl _⟩

/-- The entries of one object behind those of another one, under other names. -/
theorem append (h : EntriesKeep names es fs) (h' : EntriesKeep names' es' fs') :
    EntriesKeep (names ++ names') (es ++ es') (fs ++ fs') where
  name_mem e he := by
    rcases List.mem_append.1 he with he | he
    · exact List.mem_append_left _ (h.name_mem e he)
    · exact List.mem_append_right _ (h'.name_mem e he)
  keeps hnames name a ha := by
    obtain ⟨hn, hn', hdisjoint⟩ := List.nodup_append.1 hnames
    rw [lookupEntry_append] at ha ⊢
    -- the first entry of the name stands in front or behind
    rcases Option.or_eq_some_iff.1 ha with ha | ⟨-, ha⟩
    · obtain ⟨b, hb, hkeeps⟩ := h.keeps hn name a ha
      exact ⟨b, by rw [hb]; rfl, hkeeps⟩
    · obtain ⟨b, hb, hkeeps⟩ := h'.keeps hn' name a ha
      -- the entry is found behind the others, none of which has its name
      have hname : name ∈ names' := by
        obtain ⟨e, he, -⟩ := Option.map_eq_some_iff.1 hb
        have heq : e.1 = name := by simpa using List.find?_some he
        exact heq ▸ h'.name_mem e (List.mem_of_find?_eq_some he)
      have hfront : lookupEntry name fs = none := by
        rw [lookupEntry_eq_none_iff]
        intro hmem
        obtain ⟨e, he, heq⟩ := List.mem_map.1 hmem
        exact hdisjoint e.1 (h.name_mem e he) name hname heq
      exact ⟨b, by rw [hfront, hb]; rfl, hkeeps⟩

/-- An entry of a name, if there is a value for it. -/
theorem single (name : String) (v w : Option Json) : OptionKeeps v w →
    EntriesKeep [name]
      (match v with
        | some v => [(name, v)]
        | none => [])
      (match w with
        | some w => [(name, w)]
        | none => []) := by
  intro h
  constructor
  -- the name is the only one that is written
  · intro e he
    cases w with
    | none => exact nomatch he
    | some w => exact List.mem_singleton.1 he ▸ List.mem_singleton_self name
  · intro _ name' a ha
    cases v with
    | none => exact nomatch ha
    | some v =>
      obtain ⟨w, rfl, hkeeps⟩ := h v rfl
      -- under any other name nothing is found on either side
      by_cases hname : name = name'
      · subst hname
        obtain rfl : v = a := by simpa [lookupEntry] using ha
        exact ⟨w, by simp [lookupEntry], hkeeps⟩
      · simp [lookupEntry, hname] at ha

/-- An entry in front of others, under a name of its own. -/
theorem cons {v w : Json} (name : String) (hv : v.Keeps w) (h : EntriesKeep names es fs) :
    EntriesKeep (name :: names) ((name, v) :: es) ((name, w) :: fs) :=
  append (single name (some v) (some w) (.some hv)) h

/-- One more member of a record. -/
theorem member {σ α β : Type} {fields : Fields σ (α → β)} {m : Member α} {get : σ → α} {s t : σ}
    (h : EntriesKeep names (fields.entries s) (fields.entries t))
    (hmember : OptionKeeps (m.write (get s)) (m.write (get t))) :
    EntriesKeep (names ++ [m.name]) ((fields.member m get).entries s)
      ((fields.member m get).entries t) :=
  h.append (single m.name _ _ hmember)

/-- What is built from the members makes no difference to how they are written. -/
theorem map {σ α β : Type} {fields : Fields σ α} {s t : σ}
    (h : EntriesKeep names (fields.entries s) (fields.entries t)) (build : α → β) :
    EntriesKeep names ((fields.map build).entries s) ((fields.map build).entries t) := h

/-- Members that are added for the items of a list, one after the other. -/
theorem foldl {σ α ι : Type} {add : Fields σ α → ι → Fields σ α} {s t : σ} (name : ι → String)
    (hadd : ∀ fields names i, EntriesKeep names (fields.entries s) (fields.entries t) →
      EntriesKeep (names ++ [name i]) ((add fields i).entries s) ((add fields i).entries t))
    (items : List ι) {fields : Fields σ α} {names : List String}
    (h : EntriesKeep names (fields.entries s) (fields.entries t)) :
    EntriesKeep (names ++ items.map name) ((items.foldl add fields).entries s)
      ((items.foldl add fields).entries t) := by
  -- induction on the items, with the members that have been added before
  induction items generalizing fields names with
  | nil => rwa [List.map_nil, List.append_nil]
  | cons i rest ih =>
    rw [List.map_cons, List.append_cons, List.foldl_cons]
    exact ih (hadd fields names i h)

end EntriesKeep

end Json

end Nodewright
