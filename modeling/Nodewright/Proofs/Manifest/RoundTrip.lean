import Nodewright.Proofs.Codec.Records

/-!
# Manifests that are read back

A manifest is read back from its value and from the texts of its value, whether the members stand as
they are written or in the order of their names. The kind may stand anywhere: an envelope goes
through the entries once, and both ways to do this, over a value and over a text, take the same
steps, which `Envelope.enter` describes.

## Key results

- `Envelope.foldlM_enter`: an envelope finds its kind and keeps all the rest
- `Envelope.ofJson_object`, `Envelope.read_write`: so does an envelope of a value and one of a text
- `Manifest.isReadFrom_toJson`: a manifest is read back
- `Manifest.ofText_indented_append`: also from a text that blanks stand behind
-/

namespace Nodewright

/-! ## Envelopes -/

namespace Envelope

variable {entries : List (String × Json)} {kind : Kind}

/-- What has been read of an envelope behind one more entry, if the entry is taken. -/
def enter (done : Partial (String × Json)) (e : String × Json) :
    Option (Partial (String × Json)) :=
  if e.1 = tag then
    match done.1, kindOf e.2.outline with
    | none, .ok kind => some (some kind, done.2)
    | _, _ => none
  else some (done.1, e :: done.2)

/-- The name of a kind is that of no other one. -/
theorem kindOf_name (kind : Kind) : kindOf (.string kind.name) = .ok kind := by
  show Codec.variantOf Kind (Named.name kind) = .ok kind
  rw [Codec.variantOf, Named.ofName?_name]

/-- The kind is found under its key. -/
theorem enter_tag (rest : List (String × Json)) (kind : Kind) :
    enter (none, rest) (tag, .string kind.name) = some (some kind, rest) := by
  simp only [enter, Json.outline, kindOf_name, if_true]

theorem enter_of_ne {e : String × Json} (h : e.1 ≠ tag) (done : Partial (String × Json)) :
    enter done e = some (done.1, e :: done.2) := if_neg h

/-- Entries behind the kind are all kept. -/
theorem foldlM_enter_of_notMem (h : tag ∉ entries.map Prod.fst) (done : Partial (String × Json)) :
    entries.foldlM enter done = some (done.1, entries.reverse ++ done.2) := by
  -- the entries pile up with the last one on top
  induction entries generalizing done with
  | nil => rfl
  | cons e entries ih =>
    rw [List.map_cons, List.mem_cons, not_or] at h
    rw [List.foldlM_cons, enter_of_ne (Ne.symm h.1), Option.bind_eq_bind, Option.bind_some, ih h.2,
      List.reverse_cons, List.append_assoc]
    rfl

/-- An envelope finds its kind wherever it stands, and keeps all other entries. -/
theorem foldlM_enter (hkeys : DistinctKeys entries)
    (h : lookupEntry tag entries = some (.string kind.name)) (rest : List (String × Json)) :
    entries.foldlM enter (none, rest) =
      some (some kind, (entries.filter fun e => e.1 != tag).reverse ++ rest) := by
  -- in front of the kind the entries pile up, and behind it there is no second one
  induction entries generalizing rest with
  | nil => exact nomatch h
  | cons e entries ih =>
    obtain ⟨key, v⟩ := e
    obtain ⟨hkey, hrest⟩ := List.nodup_cons.1 hkeys
    rw [lookupEntry_cons] at h
    by_cases hname : key = tag
    · subst hname
      obtain rfl := Option.some.inj ((if_pos rfl).symm.trans h)
      -- no other entry has the key of the kind, so none is left out
      have hfilter : (entries.filter fun e => e.1 != tag) = entries := by
        refine List.filter_eq_self.2 fun e he => bne_iff_ne.2 fun heq => hkey ?_
        exact List.mem_map.2 ⟨e, he, heq⟩
      rw [List.foldlM_cons, enter_tag, Option.bind_eq_bind, Option.bind_some,
        foldlM_enter_of_notMem hkey, List.filter_cons_of_neg (by simp), hfilter]
    · rw [if_neg hname] at h
      rw [List.foldlM_cons, enter_of_ne hname, Option.bind_eq_bind, Option.bind_some,
        ih hrest h, List.filter_cons_of_pos (by simpa using hname), List.reverse_cons,
        List.append_assoc]
      rfl

/-- The entries of a value are taken one after the other. -/
theorem openEntries_of_foldlM (done : Partial (String × Json)) {rest : List (String × Json)}
    (h : entries.foldlM enter done = some (some kind, rest)) :
    openEntries done.1 done.2 entries = .ok ⟨kind, .object rest.reverse⟩ := by
  -- each entry is taken as a step of `enter`, which is known to take all of them
  induction entries generalizing done with
  | nil =>
    obtain rfl := Option.some.inj h
    rfl
  | cons e entries ih =>
    obtain ⟨done', hstep, hrun⟩ := Option.bind_eq_some_iff.1 h
    obtain ⟨found, seen⟩ := done
    obtain ⟨key, v⟩ := e
    rw [← ih done' hrun]
    by_cases hname : key = tag
    · rw [enter, if_pos hname] at hstep
      split at hstep
      · next hnone hkind =>
        obtain rfl := Option.some.inj hstep
        obtain rfl : found = none := hnone
        simp [openEntries, hname, hkind]
      · cases hstep
    · rw [enter_of_ne hname] at hstep
      obtain rfl := Option.some.inj hstep
      cases found <;> simp [openEntries, hname]

/-- The envelope of an object. -/
theorem ofJson_object (hkeys : DistinctKeys entries)
    (h : lookupEntry tag entries = some (.string kind.name)) :
    ofJson (.object entries) = .ok ⟨kind, .object (entries.filter fun e => e.1 != tag)⟩ := by
  rw [ofJson, openEntries_of_foldlM (none, []) (foldlM_enter hkeys h []),
    List.append_nil, List.reverse_reverse]

/-- The kind of a text is that of the value. -/
theorem readKind_write {layout : Json.Layout} (level : Nat) {v : Json}
    (h : kindOf v.outline = .ok kind) (src : List Char) :
    readKind (v.write layout level ++ src) = .ok (kind, src) := by
  cases v with
  | string name =>
    rw [Json.outline] at h
    rw [Json.write, readKind, Json.outlineAt_stringText, Json.Reading.andThen, h]
  | null | bool | number | array | object => cases h

/-- The entries of a text are taken as those of a value. -/
theorem readEntry_write {layout : Json.Layout} (hlayout : layout.Blank) (level : Nat)
    {e : String × Json} (hplain : e.2.Plain (Json.maxDepth - 1))
    {done done' : Partial (String × Json)} (h : enter done e = some done') {src : List Char}
    (hends : Json.EndsNumber src) :
    readEntry done e.1 (':' :: (layout.afterColon ++ (e.2.write layout (level + 1) ++ src))) =
      .ok (done', src) := by
  obtain ⟨key, v⟩ := e
  obtain ⟨found, seen⟩ := done
  rw [readEntry]
  by_cases hname : key = tag
  · rw [enter, if_pos hname] at h
    split at h
    · next hnone hkind =>
      obtain rfl : found = none := hnone
      obtain rfl := Option.some.inj h
      rw [if_pos hname, Json.colon_write hlayout hplain, Json.Reading.andThen,
        readKind_write (level + 1) hkind]
      rfl
    · cases h
  · rw [enter_of_ne hname] at h
    obtain rfl := Option.some.inj h
    rw [if_neg hname, Json.colon_write hlayout hplain, Json.Reading.andThen, readInner,
      Json.value_write hlayout hplain _ hends]
    rfl

/-- The envelope of the text of an object. -/
theorem read_write {layout : Json.Layout} (hlayout : layout.Blank) (level : Nat)
    (hplain : ∀ e ∈ entries, e.2.Plain (Json.maxDepth - 1)) (hkeys : DistinctKeys entries)
    (h : lookupEntry tag entries = some (.string kind.name)) (rest : List Char) :
    read ((Json.object entries).write layout level ++ rest) =
      .ok (⟨kind, .object (entries.filter fun e => e.1 != tag)⟩, rest) := by
  have hfold := Json.foldEntries_write hlayout enter entries
    (fun _ _ e he _ hends hstep => readEntry_write hlayout level (hplain e he) hstep hends)
    (none, []) _ (foldlM_enter hkeys h []) rest
  have htext : (Json.object entries).write layout level =
      '{' :: ((Json.object entries).write layout level).tail := by
    cases entries <;> simp [Json.write]
  rw [htext, List.cons_append, read, hfold]
  simp [Json.Reading.andThen, close]

end Envelope

/-! ## Manifests -/

namespace Manifest

/-- A value and both of its texts are read as a manifest. -/
structure IsReadFrom (m : Manifest) (v : Json) : Prop where
  value : ofJson v = .ok m
  compact : ofText v.compact = .ok m
  indented : ofText v.indented = .ok m

/-- The entries of an object that holds the kind and the members of a manifest, each arranged in
    another way. -/
structure HasEntries (m : Manifest) (f : Json → Json) (entries : List (String × Json)) : Prop where
  distinct : DistinctKeys entries
  plain : ∀ e ∈ entries, e.2.Plain (Json.maxDepth - 1)
  kind : lookupEntry Envelope.tag entries = some (.string m.kind.name)
  member : ∀ name, name ≠ Envelope.tag →
    lookupEntry name entries = (lookupEntry name ((members m.kind).entries m)).map f

section HasEntries

variable {m : Manifest} {f : Json → Json} {entries : List (String × Json)}

/-- What an envelope keeps of the entries of a manifest, in any arrangement, is the manifest. -/
theorem ofEnvelope_filter (hf : Json.Rearranges f) (h : m.HasEntries f entries) :
    ofEnvelope ⟨m.kind, .object (entries.filter fun e => e.1 != Envelope.tag)⟩ = .ok m := by
  have hmembers : (members m.kind).ReadsBack 4 m ["name", "spec"] m :=
    inferInstanceAs ((members m.spec.kind).ReadsBack 4 m _ _)
  have hfilter : DistinctKeys (entries.filter fun e => e.1 != Envelope.tag) :=
    h.distinct.sublist (List.filter_sublist.map Prod.fst)
  rw [ofEnvelope, Fields.decode, hmembers.find (by decide) hf hfilter]
  intro name hname
  have hne : name ≠ Envelope.tag := by
    rintro rfl
    exact absurd hname (by decide)
  rw [lookupEntry_filter_of_ne entries hne, h.member name hne]

/-- A manifest is read from the text of an object that holds its kind and its members. Blanks may
    stand behind it. -/
theorem ofText_write_append (hf : Json.Rearranges f) (h : m.HasEntries f entries)
    {layout : Json.Layout} (hlayout : layout.Blank) {blanks : List Char}
    (hblanks : ∀ c ∈ blanks, Json.isBlank c = true) :
    ofText (String.ofList ((Json.object entries).write layout 0 ++ blanks)) = .ok m := by
  have hstart : Json.skipBlanks ((Json.object entries).write layout 0 ++ blanks) =
      (Json.object entries).write layout 0 ++ blanks := by
    cases entries <;> rw [Json.write] <;> exact Json.skipBlanks_cons (by decide) _
  have hread := Envelope.read_write hlayout 0 h.plain h.distinct h.kind blanks
  -- nothing but blanks is left, and these are passed over
  have hend : Json.skipBlanks blanks = [] := by
    have hskip := Json.skipBlanks_append hblanks []
    rwa [List.append_nil] at hskip
  rw [ofText, String.toList_ofList, hstart, hread]
  simp only [ofEnvelope_filter hf h, TextError.checkEnd, hend]
  rfl

/-- A manifest is read from an object that holds its kind and its members, and from the texts of the
    object. -/
theorem isReadFrom_object (hf : Json.Rearranges f) (h : m.HasEntries f entries) :
    m.IsReadFrom (.object entries) := by
  have htext {layout : Json.Layout} (hlayout : layout.Blank) :
      ofText (String.ofList ((Json.object entries).write layout 0)) = .ok m := by
    have hblanks : ∀ c ∈ ([] : List Char), Json.isBlank c = true := nofun
    have hread := ofText_write_append hf h hlayout hblanks
    rwa [List.append_nil] at hread
  refine ⟨?_, htext Json.Layout.blank_compact, htext Json.Layout.blank_indented⟩
  rw [ofJson, Envelope.ofJson_object h.distinct h.kind]
  exact ofEnvelope_filter hf h

/-- The value of a manifest is such an object in any arrangement. -/
theorem exists_hasEntries (m : Manifest) (hf : Json.Rearranges f) :
    ∃ entries, f m.toJson = .object entries ∧ m.HasEntries f entries := by
  have hmembers : (members m.kind).ReadsBack 4 m ["name", "spec"] m :=
    inferInstanceAs ((members m.spec.kind).ReadsBack 4 m _ _)
  -- no member of a manifest has the key of its kind
  have htag : Envelope.tag ∉ ((members m.kind).entries m).map Prod.fst := by
    intro h
    obtain ⟨e, he, heq⟩ := List.mem_map.1 h
    exact absurd (heq ▸ hmembers.name_mem e he) (by decide)
  have hdistinct := hmembers.distinct (by decide)
  obtain ⟨entries, hobject, hkeys, hlookup⟩ :=
    hf.object ((Envelope.tag, .string m.kind.name) :: _) (List.nodup_cons.2 ⟨htag, hdistinct⟩)
  have hplain : ((f m.toJson)).Plain 5 := by
    refine hf.plain _ _ (.object fun e he => ?_)
    rcases List.mem_cons.1 he with rfl | he
    · exact .string _
    · exact hmembers.plain e he
  rw [toJson, hobject] at hplain
  refine ⟨entries, hobject, hkeys, ?_, ?_, ?_⟩
  · cases hplain with
    | object h => exact fun e he => (h e he).mono (by decide)
  · rw [hlookup, lookupEntry_cons, if_pos rfl]
    exact congrArg some (hf.scalar _ rfl)
  · intro name hname
    rw [hlookup, lookupEntry_cons, if_neg (Ne.symm hname)]

end HasEntries

/-- A manifest is read from any arrangement of its value, and from the texts of that. -/
theorem isReadFrom_of_rearranges (m : Manifest) {f : Json → Json} (hf : Json.Rearranges f) :
    m.IsReadFrom (f m.toJson) := by
  obtain ⟨entries, hobject, hentries⟩ := m.exists_hasEntries hf
  rw [hobject]
  exact isReadFrom_object hf hentries

/-- A manifest is read from its text with a line for each item. Blanks may stand behind it. -/
theorem ofText_indented_append (m : Manifest) {blanks : List Char}
    (hblanks : ∀ c ∈ blanks, Json.isBlank c = true) :
    ofText (m.toJson.indented ++ String.ofList blanks) = .ok m := by
  obtain ⟨entries, hobject, hentries⟩ := m.exists_hasEntries .id
  have htext : m.toJson.indented ++ String.ofList blanks =
      String.ofList ((Json.object entries).write .indented 0 ++ blanks) := by
    rw [String.ofList_append, ← hobject]
    rfl
  rw [htext]
  exact ofText_write_append .id hentries Json.Layout.blank_indented hblanks

/-- Every manifest is read back from its value, with the members as they are written or in the order
    of their names, and from both texts of that value. -/
theorem isReadFrom_toJson (m : Manifest) :
    m.IsReadFrom m.toJson ∧ m.IsReadFrom m.toJson.canonical :=
  ⟨m.isReadFrom_of_rearranges .id, m.isReadFrom_of_rearranges .canonical⟩

end Manifest

end Nodewright
