import Nodewright.Proofs.Json.Token

/-!
# Values that are read back

A value without doubles and negative numbers is read back from its text in every layout that puts
only blanks between the tokens. The text behind the value is left for whoever reads on, so the
statements hold for every such text that no number goes on with.

## Key results

- `itemsLoop_write`, `entriesLoop_write`: the loops hand every item, or entry, to their step
- `value_write`: a value is read back
-/

namespace Nodewright.Json

variable {ε σ : Type} {layout : Layout}

/-- A value whose numbers are natural, with containers nested no deeper than `depth`. -/
inductive Plain : Nat → Json → Prop
  | null {depth : Nat} : Plain depth null
  | bool {depth : Nat} (b : Bool) : Plain depth (bool b)
  | natural {depth : Nat} (n : UInt64) : Plain depth (natural n)
  | string {depth : Nat} (s : String) : Plain depth (string s)
  | array {depth : Nat} {items : List Json} (h : ∀ item ∈ items, Plain depth item) :
      Plain (depth + 1) (array items)
  | object {depth : Nat} {entries : List (String × Json)} (h : ∀ e ∈ entries, Plain depth e.2) :
      Plain (depth + 1) (object entries)

/-- What is nested no deeper than some depth is nested no deeper than a larger one. -/
theorem Plain.mono {depth depth' : Nat} {v : Json} (h : v.Plain depth) (hle : depth ≤ depth') :
    v.Plain depth' := by
  -- a container needs one level more than what is in it, also of the larger depth
  induction h generalizing depth' with
  | null => exact .null
  | bool b => exact .bool b
  | natural n => exact .natural n
  | string s => exact .string s
  | array _ ih =>
    obtain ⟨depth', rfl⟩ : ∃ k, depth' = k + 1 := Nat.exists_eq_add_one.2 (by omega)
    exact .array fun item hitem => ih item hitem (by omega)
  | object _ ih =>
    obtain ⟨depth', rfl⟩ : ∃ k, depth' = k + 1 := Nat.exists_eq_add_one.2 (by omega)
    exact .object fun e he => ih e he (by omega)

/-! ## Blanks -/

/-- A layout that puts only blanks between the tokens. -/
structure Layout.Blank (layout : Layout) : Prop where
  lineBreak : ∀ level, ∀ c ∈ layout.lineBreak level, isBlank c = true
  afterColon : ∀ c ∈ layout.afterColon, isBlank c = true

theorem Layout.blank_compact : compact.Blank := ⟨fun _ _ hc => (nomatch hc), fun _ hc => nomatch hc⟩

/-- An indented text has line feeds and spaces between them. -/
theorem Layout.blank_indented : indented.Blank where
  lineBreak level c hc := by
    rcases List.mem_cons.1 hc with rfl | hc
    · rfl
    · rw [List.eq_of_mem_replicate hc]; rfl
  afterColon c hc := by
    rw [List.mem_singleton.1 hc]; rfl

/-- Blanks in front of a text are passed over. -/
theorem skipBlanks_append {blanks : List Char} (h : ∀ c ∈ blanks, isBlank c = true)
    (src : List Char) : skipBlanks (blanks ++ src) = skipBlanks src :=
  List.dropWhile_append_of_pos h

theorem skipBlanks_cons {c : Char} (h : isBlank c = false) (src : List Char) :
    skipBlanks (c :: src) = c :: src := by
  simp [skipBlanks, h]

theorem skipBlanks_stringText (s : String) (src : List Char) :
    skipBlanks (stringText s ++ src) = stringText s ++ src :=
  skipBlanks_cons (by decide) _

/-- A digit is no other character. -/
private theorem ne_of_isDigit {c d : Char} (hc : c.isDigit = true) (hd : d.isDigit = false) :
    c ≠ d := by
  rintro rfl
  exact absurd hc (Bool.eq_false_iff.1 hd)

/-- A digit is no blank. -/
theorem isBlank_of_isDigit {c : Char} (h : c.isDigit = true) : isBlank c = false := by
  simp [isBlank, ne_of_isDigit h (show ' '.isDigit = false by decide),
    ne_of_isDigit h (show '\n'.isDigit = false by decide),
    ne_of_isDigit h (show '\t'.isDigit = false by decide),
    ne_of_isDigit h (show '\r'.isDigit = false by decide)]

/-- No number goes on with blanks. -/
theorem endsNumber_append {blanks src : List Char} (h : ∀ c ∈ blanks, isBlank c = true)
    (hends : EndsNumber src) : EndsNumber (blanks ++ src) := by
  cases blanks with
  | nil => exact hends
  | cons c blanks =>
    have hblank := h c List.mem_cons_self
    simp only [isBlank, Bool.or_eq_true, decide_eq_true_eq, or_assoc] at hblank
    rcases hblank with rfl | rfl | rfl | rfl <;>
      exact endsNumber_cons (by decide) (by decide) (by decide) (by decide)

/-! ## Where the text of a value starts, and what stands behind it -/

/-- The text of a value starts with neither a blank nor a closing bracket. -/
theorem exists_write_eq_cons (layout : Layout) {depth : Nat} {v : Json} (h : v.Plain depth)
    (level : Nat) :
    ∃ c src, v.write layout level = c :: src ∧ isBlank c = false ∧ c ≠ ']' := by
  cases h with
  | null => exact ⟨_, _, by rw [write], by decide, by decide⟩
  | bool b => cases b <;> exact ⟨_, _, by rw [write], by decide, by decide⟩
  | natural n =>
    obtain ⟨c, src, hdigits⟩ :=
      List.exists_cons_of_ne_nil (Nat.toDigits_ne_nil (n := n.toNat) (b := 10))
    have hdigit : c.isDigit = true :=
      Nat.isDigit_of_mem_toDigits (by decide) (by decide) (hdigits ▸ List.mem_cons_self)
    exact ⟨c, src, by rw [Json.natural, write, Number.text, hdigits], isBlank_of_isDigit hdigit,
      ne_of_isDigit hdigit (by decide)⟩
  | string s => exact ⟨_, _, by rw [write, stringText], by decide, by decide⟩
  | @array depth items _ => cases items <;> exact ⟨_, _, by rw [write], by decide, by decide⟩
  | @object depth entries _ => cases entries <;> exact ⟨_, _, by rw [write], by decide, by decide⟩

/-- No number goes on with what stands behind an item. -/
private theorem endsNumber_writeItems (hlayout : layout.Blank) (level outer : Nat)
    (items : List Json) (rest : List Char) :
    EndsNumber (writeItems layout level items ++ (layout.lineBreak outer ++ ']' :: rest)) := by
  cases items with
  | nil =>
    rw [writeItems, List.nil_append]
    exact endsNumber_append (hlayout.lineBreak outer)
      (endsNumber_cons (by decide) (by decide) (by decide) (by decide))
  | cons item items =>
    rw [writeItems, List.cons_append]
    exact endsNumber_cons (by decide) (by decide) (by decide) (by decide)

/-- No number goes on with what stands behind an entry. -/
private theorem endsNumber_writeEntries (hlayout : layout.Blank) (level outer : Nat)
    (entries : List (String × Json)) (rest : List Char) :
    EndsNumber (writeEntries layout level entries ++ (layout.lineBreak outer ++ '}' :: rest)) := by
  cases entries with
  | nil =>
    rw [writeEntries, List.nil_append]
    exact endsNumber_append (hlayout.lineBreak outer)
      (endsNumber_cons (by decide) (by decide) (by decide) (by decide))
  | cons e entries =>
    rw [writeEntries, List.cons_append]
    exact endsNumber_cons (by decide) (by decide) (by decide) (by decide)

/-! ## Items and entries -/

/-- One round of the loop over items: an item is taken up, and a comma leads to the next round. -/
private theorem itemsLoop_succ {step : σ → List Char → Reading ε σ} {s s' : σ} {c : Char}
    {src item behind : List Char} (hsrc : skipBlanks src = c :: item) (hclosing : c ≠ ']')
    (hstep : step s (c :: item) = .ok (s', behind)) (fuel : Nat) (behindComma : Bool) :
    itemsLoop step (fuel + 1) behindComma s src =
      match skipBlanks behind with
      | [] => fail .endInArray []
      | ']' :: rest => .ok (s', rest)
      | ',' :: rest => itemsLoop step fuel true s' rest
      | _ :: rest => fail .expectedArrayComma rest := by
  rw [itemsLoop, hsrc]
  split
  · next heq => exact nomatch heq
  · next heq => exact absurd (List.cons.inj heq).1 hclosing
  · generalize step s (c :: item) = reading at hstep ⊢
    subst hstep
    rfl

/-- The loop hands the items of an array to its step, one after the other. -/
theorem itemsLoop_write {step : σ → List Char → Reading ε σ} {next : σ → Json → σ}
    {depth level : Nat} (hlayout : layout.Blank) (outer : Nat) (item : Json) (items : List Json)
    (hplain : ∀ v ∈ item :: items, v.Plain depth)
    (hstep : ∀ s, ∀ v ∈ item :: items, ∀ src, EndsNumber src →
      step s (v.write layout level ++ src) = .ok (next s v, src))
    (fuel : Nat) (hfuel : items.length < fuel) (behindComma : Bool) (s : σ) (rest : List Char) :
    itemsLoop step fuel behindComma s (layout.lineBreak level ++ (item.write layout level ++
      (writeItems layout level items ++ (layout.lineBreak outer ++ ']' :: rest)))) =
        .ok ((item :: items).foldl next s, rest) := by
  -- induction on the items that are left: each takes one round, and one unit of fuel
  induction items generalizing item fuel behindComma s with
  | nil =>
    obtain ⟨fuel, rfl⟩ : ∃ k, fuel = k + 1 := Nat.exists_eq_add_one.2 hfuel
    have hitem := hstep s item List.mem_cons_self _
      (endsNumber_writeItems hlayout level outer [] rest)
    obtain ⟨c, src, hwrite, hblank, hclosing⟩ :=
      exists_write_eq_cons layout (hplain item List.mem_cons_self) level
    rw [hwrite, List.cons_append] at hitem ⊢
    rw [itemsLoop_succ ((skipBlanks_append (hlayout.lineBreak level) _).trans
      (skipBlanks_cons hblank _)) hclosing hitem, writeItems, List.nil_append,
      skipBlanks_append (hlayout.lineBreak outer), skipBlanks_cons (by decide)]
    rfl
  | cons item' items ih =>
    rw [List.length_cons] at hfuel
    obtain ⟨fuel, rfl⟩ : ∃ k, fuel = k + 1 := Nat.exists_eq_add_one.2 (by omega)
    have hitem := hstep s item List.mem_cons_self _
      (endsNumber_writeItems hlayout level outer (item' :: items) rest)
    obtain ⟨c, src, hwrite, hblank, hclosing⟩ :=
      exists_write_eq_cons layout (hplain item List.mem_cons_self) level
    rw [hwrite, List.cons_append] at hitem ⊢
    rw [itemsLoop_succ ((skipBlanks_append (hlayout.lineBreak level) _).trans
      (skipBlanks_cons hblank _)) hclosing hitem, writeItems, List.cons_append,
      skipBlanks_cons (by decide)]
    -- behind the comma the loop goes on with the items that are left
    have hrest := ih item' (fun v hv => hplain v (List.mem_cons_of_mem item hv))
      (fun s v hv => hstep s v (List.mem_cons_of_mem item hv)) fuel (by omega) true (next s item)
    simpa only [List.append_assoc, List.foldl_cons] using hrest

/-- One round of the loop over entries: a key is read, the entry is taken up, and a comma leads to
    the next round. -/
private theorem entriesLoop_succ {step : σ → String → List Char → Reading ε σ} {s s' : σ}
    {key : String} {src value behind : List Char} (hsrc : skipBlanks src = stringText key ++ value)
    (hstep : step s key value = .ok (s', behind)) (fuel : Nat) (behindComma : Bool) :
    entriesLoop step (fuel + 1) behindComma s src =
      match skipBlanks behind with
      | [] => fail .endInObject []
      | '}' :: rest => .ok (s', rest)
      | ',' :: rest => entriesLoop step fuel true s' rest
      | _ :: rest => fail .expectedObjectComma rest := by
  have hkey : (stringTail (key.toList.flatMap escapedChar ++ '"' :: value) : Reading ε String) =
      .ok (key, value) := stringTail_stringText key value
  rw [stringText, List.cons_append, List.append_assoc, List.singleton_append] at hsrc
  simp only [entriesLoop, hsrc, hkey]
  generalize step s key value = reading at hstep ⊢
  subst hstep
  rfl

/-- The loop hands the entries of an object to its step, one after the other, as long as the step
    takes them. -/
theorem entriesLoop_write {step : σ → String → List Char → Reading ε σ}
    {next : σ → String × Json → Option σ} {level : Nat} (hlayout : layout.Blank) (outer : Nat)
    (entry : String × Json) (entries : List (String × Json))
    (hstep : ∀ s s', ∀ e ∈ entry :: entries, ∀ src, EndsNumber src → next s e = some s' →
      step s e.1 (':' :: (layout.afterColon ++ (e.2.write layout level ++ src))) = .ok (s', src))
    (fuel : Nat) (hfuel : entries.length < fuel) (behindComma : Bool) (s s' : σ)
    (hrun : (entry :: entries).foldlM next s = some s') (rest : List Char) :
    entriesLoop step fuel behindComma s (layout.lineBreak level ++ (stringText entry.1 ++
      ':' :: (layout.afterColon ++ (entry.2.write layout level ++
        (writeEntries layout level entries ++ (layout.lineBreak outer ++ '}' :: rest)))))) =
          .ok (s', rest) := by
  -- induction on the entries that are left, as for items, but the step may refuse one
  induction entries generalizing entry fuel behindComma s with
  | nil =>
    obtain ⟨fuel, rfl⟩ : ∃ k, fuel = k + 1 := Nat.exists_eq_add_one.2 hfuel
    have hnext : next s entry = some s' := by simpa using hrun
    have hentry := hstep s s' entry List.mem_cons_self _
      (endsNumber_writeEntries hlayout level outer [] rest) hnext
    rw [entriesLoop_succ ((skipBlanks_append (hlayout.lineBreak level) _).trans
      (skipBlanks_stringText _ _)) hentry, writeEntries, List.nil_append,
      skipBlanks_append (hlayout.lineBreak outer), skipBlanks_cons (by decide)]
    rfl
  | cons entry' entries ih =>
    rw [List.length_cons] at hfuel
    obtain ⟨fuel, rfl⟩ : ∃ k, fuel = k + 1 := Nat.exists_eq_add_one.2 (by omega)
    rw [List.foldlM_cons, Option.bind_eq_bind, Option.bind_eq_some_iff] at hrun
    obtain ⟨t, hnext, hrun⟩ := hrun
    have hentry := hstep s t entry List.mem_cons_self _
      (endsNumber_writeEntries hlayout level outer (entry' :: entries) rest) hnext
    rw [entriesLoop_succ ((skipBlanks_append (hlayout.lineBreak level) _).trans
      (skipBlanks_stringText _ _)) hentry, writeEntries, List.cons_append,
      skipBlanks_cons (by decide)]
    -- behind the comma the loop goes on with the entries that are left
    have hrest := ih entry' (fun s s' e he => hstep s s' e (List.mem_cons_of_mem entry he)) fuel
      (by omega) true t hrun
    simpa only [List.append_assoc, List.cons_append] using hrest

/-- Every item behind a comma is written as one character or more. -/
private theorem length_le_length_writeItems (layout : Layout) (level : Nat) (items : List Json) :
    items.length ≤ (writeItems layout level items).length := by
  induction items with
  | nil => simp
  | cons item items ih =>
    simp only [writeItems, List.length_cons, List.length_append]
    omega

/-- Every entry behind a comma is written as one character or more. -/
private theorem length_le_length_writeEntries (layout : Layout) (level : Nat)
    (entries : List (String × Json)) :
    entries.length ≤ (writeEntries layout level entries).length := by
  induction entries with
  | nil => simp
  | cons e entries ih =>
    simp only [writeEntries, List.length_cons, List.length_append]
    omega

/-- The items of an array are handed to the step. The text is what stands behind the bracket. -/
theorem foldItems_write {step : σ → List Char → Reading ε σ} {next : σ → Json → σ}
    {depth level : Nat} (hlayout : layout.Blank) (items : List Json)
    (hplain : ∀ v ∈ items, v.Plain depth)
    (hstep : ∀ s, ∀ v ∈ items, ∀ src, EndsNumber src →
      step s (v.write layout (level + 1) ++ src) = .ok (next s v, src))
    (s : σ) (rest : List Char) :
    foldItems step s (((array items).write layout level).tail ++ rest) =
      .ok (items.foldl next s, rest) := by
  cases items with
  | nil => rfl
  | cons item items =>
    -- the fuel is the length of the text, and there are fewer items than characters
    have hfuel := length_le_length_writeItems layout (level + 1) items
    have htext : ((array (item :: items)).write layout level).tail ++ rest =
        layout.lineBreak (level + 1) ++ (item.write layout (level + 1) ++
          (writeItems layout (level + 1) items ++ (layout.lineBreak level ++ ']' :: rest))) := by
      simp [write]
    rw [foldItems, htext]
    refine itemsLoop_write hlayout level item items hplain hstep _ ?_ false s rest
    simp only [List.length_append]
    omega

/-- The entries of an object are handed to the step. The text is what stands behind the bracket. -/
theorem foldEntries_write {step : σ → String → List Char → Reading ε σ} {level : Nat}
    (hlayout : layout.Blank) (next : σ → String × Json → Option σ) (entries : List (String × Json))
    (hstep : ∀ s s', ∀ e ∈ entries, ∀ src, EndsNumber src → next s e = some s' →
      step s e.1 (':' :: (layout.afterColon ++ (e.2.write layout (level + 1) ++ src))) =
        .ok (s', src))
    (s s' : σ) (hrun : entries.foldlM next s = some s') (rest : List Char) :
    foldEntries step s (((object entries).write layout level).tail ++ rest) = .ok (s', rest) := by
  cases entries with
  | nil =>
    obtain rfl : s = s' := by simpa using hrun
    rfl
  | cons entry entries =>
    obtain ⟨key, value⟩ := entry
    have hfuel := length_le_length_writeEntries layout (level + 1) entries
    have htext : ((object ((key, value) :: entries)).write layout level).tail ++ rest =
        layout.lineBreak (level + 1) ++ (stringText key ++ ':' :: (layout.afterColon ++
          (value.write layout (level + 1) ++ (writeEntries layout (level + 1) entries ++
            (layout.lineBreak level ++ '}' :: rest))))) := by
      simp [write]
    rw [foldEntries, htext]
    refine entriesLoop_write hlayout level (key, value) entries hstep _ ?_ false s s' hrun rest
    simp only [List.length_append, List.length_cons]
    omega

/-! ## Values -/

/-- What starts with no bracket of a container is read as a scalar. -/
private theorem value_of_scalar (depth : Nat) {c : Char} (hblank : isBlank c = false)
    (harray : c ≠ '[') (hobject : c ≠ '{') (src : List Char) :
    (value depth (c :: src) : Reading ε Json) = scalar (c :: src) := by
  cases depth <;>
  · rw [value, skipBlanks_cons hblank]
    split
    · next heq => exact absurd (List.cons.inj heq).1 harray
    · next heq => exact absurd (List.cons.inj heq).1 hobject
    · rfl

/-- A natural number is read back. -/
private theorem value_toDigits (depth : Nat) (n : UInt64) {rest : List Char}
    (hends : EndsNumber rest) :
    (value depth (Nat.toDigits 10 n.toNat ++ rest) : Reading ε Json) =
      .ok (natural n, rest) := by
  obtain ⟨c, src, hdigits⟩ :=
    List.exists_cons_of_ne_nil (Nat.toDigits_ne_nil (n := n.toNat) (b := 10))
  have hdigit : c.isDigit = true :=
    Nat.isDigit_of_mem_toDigits (by decide) (by decide) (hdigits ▸ List.mem_cons_self)
  have hne {d : Char} (hd : d.isDigit = false) : c ≠ d := ne_of_isDigit hdigit hd
  have hnumber : (numberValue (Nat.toDigits 10 n.toNat ++ rest) : Reading ε Number) = _ :=
    numberValue_toDigits n hends
  rw [hdigits, List.cons_append] at hnumber ⊢
  rw [value_of_scalar depth (isBlank_of_isDigit hdigit) (hne (by decide)) (hne (by decide)),
    scalar]
  · simp [hne (show 'n'.isDigit = false by decide), hne (show 't'.isDigit = false by decide),
      hne (show 'f'.isDigit = false by decide), hdigit, hnumber, Reading.as, Reading.andThen,
      natural]
  · exact hne (by decide)

/-- A string is told apart from other values by all of its text. -/
theorem outlineAt_stringText (s : String) (rest : List Char) :
    (outlineAt (stringText s ++ rest) : Reading ε Outline) = .ok (.string s, rest) := by
  rw [stringText, List.cons_append, List.append_assoc, List.singleton_append, outlineAt, scalar,
    stringTail_stringText]
  · rfl
  -- a quote is the first letter of no word
  all_goals
    intro _ heq
    simp at heq

/-- The text behind a key leads to the value. -/
theorem colon_write (hlayout : layout.Blank) {depth : Nat} {v : Json} (h : v.Plain depth)
    (level : Nat) (rest : List Char) :
    (colon (':' :: (layout.afterColon ++ (v.write layout level ++ rest))) : Reading ε Unit) =
      .ok ((), v.write layout level ++ rest) := by
  obtain ⟨c, src, hwrite, hblank, -⟩ := exists_write_eq_cons layout h level
  rw [colon, skipBlanks_cons (by decide)]
  simp [skipBlanks_append hlayout.afterColon, hwrite, skipBlanks_cons hblank]

/-- A value is read back from its text, whatever stands behind it, unless a number goes on there. -/
theorem value_write (hlayout : layout.Blank) {depth : Nat} {v : Json} (h : v.Plain depth)
    (level : Nat) {rest : List Char} (hends : EndsNumber rest) :
    (value depth (v.write layout level ++ rest) : Reading ε Json) = .ok (v, rest) := by
  -- induction on the value, which bounds the depth; scalars are tokens, and a container hands the
  -- text of what is in it to its loop
  induction h generalizing level rest with
  | null =>
    rw [write, List.cons_append, value_of_scalar _ (by decide) (by decide) (by decide)]
    simp [scalar, word]
  | bool b =>
    cases b <;>
    · rw [write, List.cons_append, value_of_scalar _ (by decide) (by decide) (by decide)]
      simp [scalar, word]
  | natural n => exact value_toDigits _ n hends
  | string s =>
    rw [write, stringText, List.cons_append, List.append_assoc, List.singleton_append,
      value_of_scalar _ (by decide) (by decide) (by decide), scalar, stringTail_stringText]
    rfl
  | @array depth items hitems ih =>
    have hstep : ∀ s : List Json, ∀ v ∈ items, ∀ src, EndsNumber src →
        (addItem (value depth) s (v.write layout (level + 1) ++ src) : Reading ε _) =
          .ok (v :: s, src) := by
      intro s v hv src hends
      rw [addItem, ih v hv (level + 1) hends]
      rfl
    have hfold := foldItems_write hlayout items hitems hstep [] rest
    have htext : (array items).write layout level =
        '[' :: ((array items).write layout level).tail := by
      cases items <;> simp [write]
    rw [htext, List.cons_append, value, skipBlanks_cons (by decide)]
    simp [hfold, Reading.as, Reading.andThen]
  | @object depth entries hentries ih =>
    have hstep : ∀ s s' : List (String × Json), ∀ e ∈ entries, ∀ src, EndsNumber src →
        some (e :: s) = some s' →
          (addEntry (value depth) s e.1
            (':' :: (layout.afterColon ++ (e.2.write layout (level + 1) ++ src))) : Reading ε _) =
              .ok (s', src) := by
      rintro s _ e he src hends ⟨⟩
      rw [addEntry, colon_write hlayout (hentries e he), Reading.andThen,
        ih e he (level + 1) hends]
      rfl
    -- no entry is refused, and they are collected in reverse
    have hrun : entries.foldlM (fun s e => some (e :: s)) [] = some entries.reverse := by
      show entries.foldlM (fun s e => pure (e :: s)) [] = _
      rw [List.foldlM_pure, List.foldl_flip_cons_eq_append', List.append_nil]
      rfl
    have hfold := foldEntries_write hlayout (fun s e => some (e :: s)) entries hstep [] _ hrun rest
    have htext : (object entries).write layout level =
        '{' :: ((object entries).write layout level).tail := by
      cases entries <;> simp [write]
    rw [htext, List.cons_append, value, skipBlanks_cons (by decide)]
    simp [hfold, Reading.as, Reading.andThen]

end Nodewright.Json
