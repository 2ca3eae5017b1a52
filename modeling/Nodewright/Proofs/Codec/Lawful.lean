import Nodewright.Codec.Choice
import Nodewright.Codec.Record
import Nodewright.Proofs.Json.Arrangement

/-!
# Codecs that read back what they write

A codec is lawful if it reads back what it writes, in every setting and in every arrangement of the
value. Null is kept for what is missing, so a lawful codec refuses it. The laws of a record come
from those of its members: an entry is found under its name wherever it stands, as long as no name
is used twice.

## Key results

- `Codec.Lawful`: the laws, with an instance for every codec that is not a record
- `Member.ReadsBack`, `Fields.ReadsBack`: the laws of the members of a record, with an instance for
  every way to add a member
- `Fields.lawful_codec`: the codec of a record is lawful
- `Member.write_injective`: a member writes distinct values for distinct values
-/

namespace Nodewright

variable {σ α β : Type} {depth : Nat}

/-! ## Codecs -/

/-- The laws of a codec whose values are written with containers nested no deeper than `depth`. -/
class Codec.Lawful (depth : Nat) (c : Codec α) : Prop where
  decode_encode : ∀ {f : Json → Json}, Json.Rearranges f → ∀ setting a,
    c.decode setting (f (c.encode a)) = .ok a
  decode_null_ne_ok : ∀ setting a, c.decode setting .null ≠ .ok a
  plain_encode : ∀ a, (c.encode a).Plain depth

namespace Codec

/-- A codec that writes scalars has only one arrangement to read back. -/
private theorem lawful_of_isScalar {c : Codec α} (hscalar : ∀ a, (c.encode a).isScalar = true)
    (hread : ∀ setting a, c.decode setting (c.encode a) = .ok a)
    (hnull : ∀ setting a, c.decode setting .null ≠ .ok a)
    (hplain : ∀ a, (c.encode a).Plain depth) : c.Lawful depth where
  decode_encode hf setting a := by
    rw [hf.scalar _ (hscalar a)]
    exact hread setting a
  decode_null_ne_ok := hnull
  plain_encode := hplain

instance : text.Lawful depth :=
  lawful_of_isScalar (fun _ => rfl) (fun _ _ => rfl) (fun _ _ => nofun) fun s => .string s

instance : flag.Lawful depth :=
  lawful_of_isScalar (fun _ => rfl) (fun _ _ => rfl) (fun _ _ => nofun) fun b => .bool b

/-- A natural number below the bound is read back. -/
theorem bounded_natural {bound : Nat} (expected : String) {n : UInt64} (h : n.toNat < bound) :
    bounded bound expected (.natural n) = .ok n.toNat := by
  rw [Json.natural, bounded, if_pos h]

instance : word16.Lawful depth := by
  refine lawful_of_isScalar (fun _ => rfl) ?_ (fun _ _ => nofun) fun n => .natural n.toUInt64
  intro setting n
  have hlt : n.toUInt64.toNat < Nat.pow 2 16 := n.toNat_lt
  simp only [word16, bounded_natural _ hlt, Except.map, UInt16.toNat_toUInt64, UInt16.ofNat_toNat]

instance : word32.Lawful depth := by
  refine lawful_of_isScalar (fun _ => rfl) ?_ (fun _ _ => nofun) fun n => .natural n.toUInt64
  intro setting n
  have hlt : n.toUInt64.toNat < Nat.pow 2 32 := n.toNat_lt
  simp only [word32, bounded_natural _ hlt, Except.map, UInt32.toNat_toUInt64, UInt32.ofNat_toNat]

instance : word64.Lawful depth := by
  refine lawful_of_isScalar (fun _ => rfl) ?_ (fun _ _ => nofun) fun n => .natural n
  intro setting n
  simp only [word64, bounded_natural _ n.toNat_lt, Except.map, UInt64.ofNat_toNat]

instance [Named α] : (choice α).Lawful depth := by
  refine lawful_of_isScalar (fun _ => rfl) ?_ (fun _ _ => nofun) fun a => .string (Named.name a)
  intro setting a
  simp only [choice, variantOf, Named.ofName?_name]

instance [Named α] (kind : Kind) : (client α kind).Lawful depth := by
  refine lawful_of_isScalar (fun _ => rfl) ?_ (fun _ _ => nofun) fun a => .string (Named.name a)
  intro setting a
  show clientOf α kind (Named.name a) = .ok a
  simp only [clientOf, Named.ofName?_name]

/-- Items that are read back one by one are read back together. -/
theorem mapM_decode_map (depth : Nat) (c : Codec α) [c.Lawful depth] {f : Json → Json}
    (hf : Json.Rearranges f) (setting : Setting) (items : List α) :
    ((items.map c.encode).map f).mapM (c.decode setting) = .ok items := by
  -- each item is read by itself, and the first that fails would end the list
  induction items with
  | nil => rfl
  | cons a items ih =>
    rw [List.map_cons, List.map_cons, List.mapM_cons, Lawful.decode_encode depth hf, ih]
    rfl

instance (c : Codec α) [c.Lawful depth] : (list c).Lawful (depth + 1) where
  decode_encode {f} hf setting items := by
    show c.list.decode setting (f (Json.array (items.map c.encode))) = .ok items
    rw [hf.array]
    exact mapM_decode_map depth c hf setting items
  decode_null_ne_ok _ _ := nofun
  plain_encode items := by
    refine .array fun v hv => ?_
    obtain ⟨a, -, rfl⟩ := List.mem_map.1 hv
    exact Lawful.plain_encode a

/-- A value that may be null is read back where it is not. -/
theorem decode_nullable_encode (depth : Nat) (c : Codec α) [c.Lawful depth] {f : Json → Json}
    (hf : Json.Rearranges f) (setting : Setting) (a : α) :
    c.nullable.decode setting (f (c.encode a)) = .ok (some a) := by
  have hread := Lawful.decode_encode (c := c) depth hf setting a
  rw [nullable]
  dsimp only
  split
  · next hnull =>
    rw [hnull] at hread
    exact absurd hread (Lawful.decode_null_ne_ok depth setting a)
  · rw [hread]
    rfl

end Codec

/-! ## Members -/

/-- A member reads back what it writes for a value, and where it writes nothing, it takes the value
    for granted. -/
class Member.ReadsBack (depth : Nat) (m : Member α) (a : α) : Prop where
  read : ∀ v, m.write a = some v → ∀ f, Json.Rearranges f → ∀ setting,
    m.read setting (f v) = .ok a
  absent : m.write a = none → m.absent = some a
  plain : ∀ v, m.write a = some v → v.Plain depth

namespace Member

variable (name : String) (c : Codec α)

/-- A member that is required has the name it is given. -/
@[simp] theorem name_required : (required name c).name = name := rfl

@[simp] theorem name_defaulted (usual : α) : (defaulted name c usual).name = name := rfl

@[simp] theorem name_optional : (optional name c).name = name := rfl

@[simp] theorem name_listing : (listing name c).name = name := rfl

/-- A member that is required is always written. -/
@[simp] theorem write_required (a : α) : (required name c).write a = some (c.encode a) := rfl

/-- So is one with a usual value, even where it has that. -/
@[simp] theorem write_defaulted (usual a : α) :
    (defaulted name c usual).write a = some (c.encode a) := rfl

/-- A member that may be missing is written if it is there. -/
@[simp] theorem write_optional (o : Option α) :
    (optional name c).write o = o.map c.encode := rfl

variable [c.Lawful depth]

/-- A member that is always written as its codec writes it. -/
private theorem readsBack_of_write {m : Member α} (hwrite : ∀ a, m.write a = some (c.encode a))
    (hread : m.read = c.decode) (a : α) : m.ReadsBack depth a where
  read v hv f hf setting := by
    rw [hwrite, Option.some.injEq] at hv
    rw [← hv, hread]
    exact Codec.Lawful.decode_encode depth hf setting a
  absent h := by
    rw [hwrite] at h
    exact nomatch h
  plain v hv := by
    rw [hwrite, Option.some.injEq] at hv
    rw [← hv]
    exact Codec.Lawful.plain_encode a

instance (a : α) : (required name c).ReadsBack depth a :=
  readsBack_of_write c (fun _ => rfl) rfl a

instance (usual a : α) : (defaulted name c usual).ReadsBack depth a :=
  readsBack_of_write c (fun _ => rfl) rfl a

instance (o : Option α) : (optional name c).ReadsBack depth o := by
  -- nothing is written for a value that is missing, and then it is what an absent entry stands for
  cases o with
  | none => exact ⟨nofun, fun _ => rfl, nofun⟩
  | some a =>
    refine ⟨?_, nofun, ?_⟩
    · rintro _ ⟨⟩ f hf setting
      exact c.decode_nullable_encode depth hf setting a
    · rintro _ ⟨⟩
      exact Codec.Lawful.plain_encode a

instance (items : List α) : (listing name c).ReadsBack (depth + 1) items := by
  cases items with
  | nil => exact ⟨nofun, fun _ => rfl, nofun⟩
  | cons a items =>
    refine ⟨?_, nofun, ?_⟩
    · rintro _ ⟨⟩ f hf setting
      exact Codec.Lawful.decode_encode (c := c.list) (depth + 1) hf setting (a :: items)
    · rintro _ ⟨⟩
      show (c.list.encode (a :: items)).Plain (depth + 1)
      exact Codec.Lawful.plain_encode (a :: items)

end Member

/-- A member that is read back writes distinct values for distinct values. -/
theorem Member.write_injective (depth : Nat) {m : Member α}
    [h : ∀ a, m.ReadsBack depth a] : Function.Injective m.write := by
  intro a b heq
  -- what is not written is known from the absence, and what is written is read back
  cases hwrite : m.write a with
  | none =>
    have ha := (h a).absent hwrite
    rw [(h b).absent (heq ▸ hwrite)] at ha
    exact (Option.some.inj ha).symm
  | some v =>
    have ha := (h a).read v hwrite _ .id .alone
    rw [(h b).read v (heq ▸ hwrite) _ .id .alone] at ha
    exact (Except.ok.inj ha).symm

/-! ## Entries of an object -/

/-- A name that is not found does not occur. -/
theorem occurrences_eq_nil {name : String} {entries : List (String × Json)}
    (h : lookupEntry name entries = none) (place : Nat) : occurrences name place entries = [] := by
  -- induction on the entries, whose places are counted from the first one
  induction entries generalizing place with
  | nil => rfl
  | cons e entries ih =>
    obtain ⟨key, v⟩ := e
    rw [lookupEntry_cons] at h
    split at h
    · exact nomatch h
    · next hname => rw [occurrences, if_neg hname, ih h]

/-- A name that does not stand twice occurs where it is looked up, and nowhere else. -/
theorem exists_occurrences_eq {name : String} {entries : List (String × Json)} {v : Json}
    (hkeys : DistinctKeys entries) (h : lookupEntry name entries = some v) (place : Nat) :
    ∃ i, occurrences name place entries = [(i, v)] := by
  induction entries generalizing place with
  | nil => exact nomatch h
  | cons e entries ih =>
    obtain ⟨key, w⟩ := e
    obtain ⟨hkey, hkeys⟩ := List.nodup_cons.1 hkeys
    rw [lookupEntry_cons] at h
    rw [occurrences]
    split at h
    · next hname =>
      subst hname
      obtain rfl := Option.some.inj h
      rw [if_pos rfl, occurrences_eq_nil (lookupEntry_eq_none_iff.2 hkey)]
      exact ⟨place, rfl⟩
    · next hname =>
      rw [if_neg hname]
      exact ih hkeys h (place + 1)

/-- A member is read from the entries of an object, whatever their order. -/
theorem Member.find_eq_of_lookupEntry (depth : Nat) {m : Member α} {a : α} [h : m.ReadsBack depth a]
    {f : Json → Json} (hf : Json.Rearranges f) {entries : List (String × Json)}
    (hkeys : DistinctKeys entries)
    (hlookup : lookupEntry m.name entries = (m.write a).map f) (setting : Setting) :
    m.find setting entries = .ok a := by
  rw [find]
  cases hwrite : m.write a with
  | none =>
    -- where nothing was written nothing is found, in whichever order the entries are
    rw [hwrite] at hlookup
    rw [occurrences_eq_nil hlookup, h.absent hwrite]
  | some v =>
    rw [hwrite] at hlookup
    obtain ⟨i, hi⟩ := exists_occurrences_eq hkeys hlookup 0
    simp only [hi, h.read v hwrite f hf]

/-! ## Records -/

/-- A record is written as the object of its entries. -/
@[simp] theorem Fields.encode_codec (fs : Fields σ σ) (title : String) (s : σ) :
    (fs.codec title).encode s = .object (fs.entries s) := rfl

/-- A record starts without entries. -/
@[simp] theorem Fields.entries_build (build : α) (s : σ) :
    (Fields.build build).entries s = [] := rfl

/-- What stands under a name in the members of a record. -/
@[simp] theorem Fields.lookupEntry_entries_member (fs : Fields σ (α → β)) (m : Member α)
    (get : σ → α) (s : σ) (name : String) :
    lookupEntry name ((fs.member m get).entries s) =
      (lookupEntry name (fs.entries s)).or (if m.name = name then m.write (get s) else none) := by
  rw [member, lookupEntry_append]
  cases m.write (get s) with
  | none => simp
  | some v => rw [lookupEntry_cons, lookupEntry_nil]

/-- The members of a part of a record, as members of the record. -/
def Fields.of {τ : Type} (fs : Fields σ α) (part : τ → σ) : Fields τ α :=
  { fs with entries := fun t => fs.entries (part t) }

/-- The members of a record `s` are written under the given names, of which none is used twice, and
    the value `a` is built from what is read back. -/
class Fields.ReadsBack (depth : Nat) (fs : Fields σ α) (s : σ) (names : outParam (List String))
    (a : outParam α) : Prop where
  name_mem : ∀ e ∈ fs.entries s, e.1 ∈ names
  distinct : names.Nodup → DistinctKeys (fs.entries s)
  plain : ∀ e ∈ fs.entries s, e.2.Plain depth
  find : names.Nodup → ∀ {f : Json → Json}, Json.Rearranges f → ∀ {entries : List (String × Json)},
    DistinctKeys entries →
    (∀ name ∈ names, lookupEntry name entries = (lookupEntry name (fs.entries s)).map f) →
    ∀ setting, fs.find setting entries = .ok a

namespace Fields.ReadsBack

variable {names : List String} {s : σ}

instance (build : α) : (.build build : Fields σ α).ReadsBack depth s [] build where
  name_mem _ he := nomatch he
  distinct _ := .nil
  plain _ he := nomatch he
  find _ _ _ _ _ _ _ := rfl

instance (fs : Fields σ α) (a : α) [h : fs.ReadsBack depth s names a] (build : α → β) :
    (fs.map build).ReadsBack depth s names (build a) where
  name_mem := h.name_mem
  distinct := h.distinct
  plain := h.plain
  find hnames _ hf _ hkeys hlookup setting := by
    show (fs.find setting _).map build = _
    rw [h.find hnames hf hkeys hlookup setting]
    rfl

instance {τ : Type} (fs : Fields σ α) (part : τ → σ) (t : τ) (a : α)
    [h : fs.ReadsBack depth (part t) names a] : (fs.of part).ReadsBack depth t names a where
  name_mem := h.name_mem
  distinct := h.distinct
  plain := h.plain
  find := h.find

/-- One more member, under a name of its own. -/
instance (fs : Fields σ (α → β)) (build : α → β) [h : fs.ReadsBack depth s names build]
    (m : Member α) (get : σ → α) [hmember : m.ReadsBack depth (get s)] :
    (fs.member m get).ReadsBack depth s (names ++ [m.name]) (build (get s)) where
  name_mem e he := by
    rcases List.mem_append.1 he with he | he
    · exact List.mem_append_left _ (h.name_mem e he)
    · split at he
      · obtain rfl := List.mem_singleton.1 he
        exact List.mem_append_right _ (List.mem_singleton_self _)
      · exact nomatch he
  distinct hnames := by
    obtain ⟨hnames, -, hdisjoint⟩ := List.nodup_append.1 hnames
    rw [DistinctKeys, member, List.map_append]
    refine List.nodup_append.2 ⟨h.distinct hnames, ?_, ?_⟩
    · split <;> simp
    -- names in front are among those given, and the new name is none of them
    · intro key hkey key' hkey'
      obtain ⟨e, he, rfl⟩ := List.mem_map.1 hkey
      refine hdisjoint e.1 (h.name_mem e he) key' ?_
      split at hkey'
      · exact hkey'
      · exact nomatch hkey'
  plain e he := by
    rcases List.mem_append.1 he with he | he
    · exact h.plain e he
    · split at he
      · next v hv =>
        obtain rfl := List.mem_singleton.1 he
        exact hmember.plain v hv
      · exact nomatch he
  find hnames f hf entries hkeys hlookup setting := by
    obtain ⟨hfront, -, hdisjoint⟩ := List.nodup_append.1 hnames
    -- the new member hides none of those in front, and none of them hides it
    have hfind : fs.find setting entries = .ok build := by
      refine h.find hfront hf hkeys (fun name hname => ?_) setting
      have hne : m.name ≠ name :=
        fun heq => hdisjoint name hname m.name (List.mem_singleton_self _) heq.symm
      rw [hlookup name (List.mem_append_left _ hname), lookupEntry_entries_member, if_neg hne,
        Option.or_none]
    -- so the name is looked up in the new entry
    have hmissing : lookupEntry m.name (fs.entries s) = none := by
      rw [lookupEntry_eq_none_iff]
      intro hmem
      obtain ⟨e, he, heq⟩ := List.mem_map.1 hmem
      exact hdisjoint e.1 (h.name_mem e he) m.name (List.mem_singleton_self _) heq
    have hfind' : m.find setting entries = .ok (get s) := by
      refine m.find_eq_of_lookupEntry depth hf hkeys ?_ setting
      rw [hlookup m.name (List.mem_append_right _ (List.mem_singleton_self _)),
        lookupEntry_entries_member, hmissing, if_pos rfl, Option.none_or]
    show Fault.first (fs.find setting entries) (m.find setting entries) = .ok (build (get s))
    rw [hfind, hfind']
    rfl

end Fields.ReadsBack

/-- The codec of a record is lawful if the record is built again from its members, and no name is
    used twice. -/
theorem Fields.lawful_codec {fs : Fields σ σ} {names : List String} {value : σ → σ} (title : String)
    [h : ∀ s, fs.ReadsBack depth s names (value s)] (hvalue : ∀ s, value s = s)
    (hnames : names.Nodup) : (fs.codec title).Lawful (depth + 1) where
  decode_encode {f} hf setting s := by
    obtain ⟨entries, hobject, hkeys, hlookup⟩ := hf.object _ ((h s).distinct hnames)
    show fs.decode title setting (f (.object (fs.entries s))) = .ok s
    rw [hobject, decode, (h s).find hnames hf hkeys fun name _ => hlookup name, hvalue]
  decode_null_ne_ok _ _ := nofun
  plain_encode s := .object (h s).plain

end Nodewright
