import Nodewright.Format
import Nodewright.Proofs.Quantity.Grammar
import Nodewright.Proofs.Text.Trimmed

/-!
# How addresses and quantities are written

A recogniser goes through a text from its front and takes each run of characters as far as it
reaches. It never tries a shorter run, and it need not: the sign behind a run never belongs to the
run itself. So the texts that are taken are those of a grammar in which a text may be divided at
will.

## Key results

- `Format.Account`, `Format.Enode`, `Format.Email`, `Quantity.Written`: the grammars
- `Format.isAccountAddress_iff`, `Format.isEnode_iff`, `Format.isEmail_iff`: the recognisers take
  the texts of their grammars
- `Quantity.isSome_amount?_iff`: so does the reader of quantities, apart from blanks at both ends
- `Format.recognised_iff`: no other texts are taken
-/

namespace Nodewright

namespace Format

open Text (isBlank)

/-! ## Grammars -/

/-- The hexadecimal digits. -/
def hexDigits : List Char := "0123456789abcdefABCDEF".toList

/-- So many hexadecimal digits. -/
structure Hex (count : Nat) (cs : List Char) : Prop where
  length_eq : cs.length = count
  mem : ∀ c ∈ cs, c ∈ hexDigits

/-- One to five decimal digits. -/
structure Port (cs : List Char) : Prop where
  pos : 1 ≤ cs.length
  length_le : cs.length ≤ 5
  isDigit : ∀ c ∈ cs, c.isDigit = true

/-- A host is anything without a colon and without blanks. -/
structure Host (cs : List Char) : Prop where
  ne_nil : cs ≠ []
  ne_colon : ∀ c ∈ cs, c ≠ ':'
  not_blank : ∀ c ∈ cs, isBlank c = false

/-- How the address of an account is written. -/
def Account (cs : List Char) : Prop :=
  ∃ digits, cs = "0x".toList ++ digits ∧ Hex 40 digits

/-- How the port of a node is written, maybe with that of its discovery. -/
def Ports (cs : List Char) : Prop :=
  Port cs ∨
    ∃ port discovery, cs = port ++ ("?discport=".toList ++ discovery) ∧ Port port ∧ Port discovery

/-- How the address of a node is written. -/
def Enode (cs : List Char) : Prop :=
  ∃ key host ports, cs = "enode://".toList ++ (key ++ '@' :: (host ++ ':' :: ports)) ∧
    Hex 128 key ∧ Host host ∧ Ports ports

/-- How the address of a mailbox is written. -/
structure Email (cs : List Char) : Prop where
  not_blank : ∀ c ∈ cs, isBlank c = false
  count_at : cs.count '@' = 1
  exists_parts : ∃ mailbox front back, cs = mailbox ++ '@' :: (front ++ '.' :: back) ∧
    mailbox ≠ [] ∧ front ≠ [] ∧ back ≠ []

/-! ## Accounts -/

/-- The ranges of the recognisers hold the digits and nothing else. -/
theorem isHexDigit_iff {c : Char} : isHexDigit c = true ↔ c ∈ hexDigits := by
  constructor
  · intro h
    have hle (d : Char) : c ≤ d ↔ c.toNat ≤ d.toNat := Iff.rfl
    have hascii : c.toNat < 128 := by
      have h9 : '9'.toNat = 57 := rfl
      have hF : 'F'.toNat = 70 := rfl
      have hf : 'f'.toNat = 102 := rfl
      simp only [isHexDigit, Bool.or_eq_true, Bool.and_eq_true, decide_eq_true_eq, hle] at h
      omega
    -- the ranges lie among the first 128 characters, and these can be gone through
    have hall : ∀ n < 128, isHexDigit (Char.ofNat n) = true → Char.ofNat n ∈ hexDigits := by
      decide
    have hc := hall c.toNat hascii
    rw [Char.ofNat_toNat] at hc
    exact hc h
  · have hall : hexDigits.all isHexDigit = true := by decide
    exact List.all_eq_true.1 hall c

/-- So many digits are recognised by their number, and one by one. -/
theorem hex_iff {count : Nat} {cs : List Char} :
    (cs.length = count && cs.all isHexDigit) = true ↔ Hex count cs := by
  simp only [Bool.and_eq_true, decide_eq_true_eq, List.all_eq_true, isHexDigit_iff]
  exact ⟨fun h => ⟨h.1, h.2⟩, fun h => ⟨h.length_eq, h.mem⟩⟩

/-- What stands behind a beginning. -/
theorem behind?_eq_some_iff {start cs rest : List Char} :
    behind? start cs = some rest ↔ cs = start ++ rest := by
  rw [behind?]
  constructor
  · intro h
    split at h
    · next hstart =>
      obtain ⟨rest', rfl⟩ := List.isPrefixOf_iff_prefix.1 hstart
      rw [List.drop_left] at h
      rw [Option.some.inj h]
    · cases h
  · rintro rfl
    rw [if_pos (List.isPrefixOf_iff_prefix.2 (List.prefix_append start rest)), List.drop_left]

/-- The address of an account is recognised. -/
theorem isAccountAddress_iff {s : String} : isAccountAddress s = true ↔ Account s.toList := by
  rw [isAccountAddress]
  constructor
  · intro h
    split at h
    · next digits hbehind => exact ⟨digits, behind?_eq_some_iff.1 hbehind, hex_iff.1 h⟩
    · cases h
  · rintro ⟨digits, hs, h⟩
    have hbehind : behind? ['0', 'x'] s.toList = some digits := behind?_eq_some_iff.2 hs
    rw [hbehind]
    exact hex_iff.2 h

/-! ## Nodes -/

theorem isPort_iff {cs : List Char} : isPort cs = true ↔ Port cs := by
  simp only [isPort, Bool.and_eq_true, decide_eq_true_eq, List.all_eq_true]
  exact ⟨fun h => ⟨h.1.1, h.1.2, h.2⟩, fun h => ⟨⟨h.pos, h.length_le⟩, h.isDigit⟩⟩

/-- A port ends where the text does, or at the mark in front of another one. -/
theorem isPorts_iff {cs : List Char} : isPorts cs = true ↔ Ports cs := by
  rw [isPorts, Bool.and_eq_true, isPort_iff]
  constructor
  · rintro ⟨hport, hrest⟩
    have hcs := List.takeWhile_append_dropWhile (p := Char.isDigit) (l := cs)
    split at hrest
    · next hnil =>
      rw [hnil, List.append_nil] at hcs
      exact .inl (hcs ▸ hport)
    · split at hrest
      · next discovery hbehind =>
        rw [behind?_eq_some_iff.1 hbehind] at hcs
        exact .inr ⟨_, discovery, hcs.symm, hport, isPort_iff.1 hrest⟩
      · cases hrest
  · -- the run of digits stops at the end of the text, and at the mark
    rintro (h | ⟨port, discovery, rfl, h, h'⟩)
    · have hstop : ∀ c, ([] : List Char).head? = some c → c.isDigit = false := nofun
      have htake := Text.takeWhile_append_of_stop h.isDigit hstop
      have hdrop := Text.dropWhile_append_of_stop h.isDigit hstop
      rw [List.append_nil] at htake hdrop
      rw [htake, hdrop]
      exact ⟨h, rfl⟩
    · have hstop : ∀ c, ("?discport=".toList ++ discovery).head? = some c → c.isDigit = false := by
        rintro c ⟨⟩
        rfl
      have hbehind : behind? discoveryMark ("?discport=".toList ++ discovery) = some discovery :=
        behind?_eq_some_iff.2 rfl
      rw [Text.takeWhile_append_of_stop h.isDigit hstop,
        Text.dropWhile_append_of_stop h.isDigit hstop]
      refine ⟨h, ?_⟩
      split
      · next hnil => cases hnil
      · rw [hbehind]
        exact isPort_iff.2 h'

/-- The characters of a host, as the recogniser takes them up. -/
theorem host_iff {cs : List Char} :
    Host cs ↔ cs ≠ [] ∧ ∀ c ∈ cs, (decide (c ≠ ':') && !isBlank c) = true := by
  simp only [Bool.and_eq_true, decide_eq_true_eq, Bool.not_eq_true']
  exact ⟨fun h => ⟨h.ne_nil, fun c hc => ⟨h.ne_colon c hc, h.not_blank c hc⟩⟩,
    fun h => ⟨h.1, fun c hc => (h.2 c hc).1, fun c hc => (h.2 c hc).2⟩⟩

/-- A host ends at the first colon. -/
theorem isEndpoint_iff {cs : List Char} :
    isEndpoint cs = true ↔ ∃ host ports, cs = host ++ ':' :: ports ∧ Host host ∧ Ports ports := by
  simp only [isEndpoint, Bool.and_eq_true, Bool.not_eq_true', List.isEmpty_eq_false_iff]
  constructor
  · rintro ⟨hne, hrest⟩
    split at hrest
    · next ports hdrop =>
      refine ⟨_, ports, ?_, host_iff.2 ⟨hne, fun c hc => ?_⟩, isPorts_iff.1 hrest⟩
      · rw [← hdrop, List.takeWhile_append_dropWhile]
      · exact List.all_eq_true.1 List.all_takeWhile c hc
    · cases hrest
  · rintro ⟨host, ports, rfl, hhost, hports⟩
    obtain ⟨hne, hhost⟩ := host_iff.1 hhost
    -- no colon stands in the host, so the run ends where the host does
    have hstop : ∀ c, (':' :: ports).head? = some c →
        (decide (c ≠ ':') && !isBlank c) = false := by
      rintro c ⟨⟩
      rfl
    rw [Text.takeWhile_append_of_stop hhost hstop, Text.dropWhile_append_of_stop hhost hstop]
    exact ⟨hne, isPorts_iff.2 hports⟩

/-- The address of a node is recognised. -/
theorem isEnode_iff {s : String} : isEnode s = true ↔ Enode s.toList := by
  rw [isEnode]
  constructor
  · intro h
    split at h
    · next rest hbehind =>
      rw [Bool.and_eq_true, hex_iff] at h
      obtain ⟨hkey, hrest⟩ := h
      split at hrest
      · next endpoint hdrop =>
        obtain ⟨host, ports, rfl, hhost, hports⟩ := isEndpoint_iff.1 hrest
        refine ⟨_, host, ports, ?_, hkey, hhost, hports⟩
        rw [behind?_eq_some_iff.1 hbehind, ← hdrop, List.take_append_drop]
      · cases hrest
    · cases h
  -- the other way round, each reader takes as much as the grammar gives it
  · rintro ⟨key, host, ports, hs, hkey, hhost, hports⟩
    have hendpoint := isEndpoint_iff.2 ⟨host, ports, rfl, hhost, hports⟩
    rw [behind?_eq_some_iff.2 hs]
    -- the key is cut off by its length and not by the sign behind it
    simp only [List.take_left' hkey.length_eq, List.drop_left' hkey.length_eq, hendpoint,
      Bool.and_true]
    exact hex_iff.2 hkey

/-! ## Mailboxes -/

/-- An inner item of a list has something in front of it and something behind it. -/
theorem mem_inner_iff {α : Type} {a : α} {items : List α} :
    a ∈ (items.drop 1).dropLast ↔
      ∃ front back, items = front ++ a :: back ∧ front ≠ [] ∧ back ≠ [] := by
  constructor
  · intro h
    cases items with
    | nil => exact absurd h List.not_mem_nil
    | cons first rest =>
      rw [List.drop_one, List.tail_cons] at h
      -- something stands behind the item, so the last one is another
      have hne : rest ≠ [] := by
        rintro rfl
        exact absurd h List.not_mem_nil
      obtain ⟨front, back, hinner⟩ := List.append_of_mem h
      refine ⟨first :: front, back ++ [rest.getLast hne], ?_, by simp, by simp⟩
      have hrest := List.dropLast_append_getLast hne
      rw [hinner] at hrest
      simpa using hrest.symm
  · rintro ⟨front, back, rfl, hfront, hback⟩
    obtain ⟨first, front, rfl⟩ := List.exists_cons_of_ne_nil hfront
    rw [List.cons_append, List.drop_one, List.tail_cons, List.dropLast_append_of_ne_nil (by simp),
      List.dropLast_cons_of_ne_nil hback]
    simp

/-- The address of a mailbox is recognised. -/
theorem isEmail_iff {s : String} : isEmail s = true ↔ Email s.toList := by
  simp only [isEmail]
  constructor
  · intro h
    have hcs := List.takeWhile_append_dropWhile (p := (· ≠ '@')) (l := s.toList)
    split at h
    · cases h
    · next c domain hdrop =>
      -- the run in front of the first `@` ends at one
      obtain rfl : c = '@' := by
        have hhead := List.head?_dropWhile_not (· ≠ '@') s.toList
        rw [hdrop] at hhead
        simpa using hhead
      simp only [Bool.and_eq_true, Bool.not_eq_true', List.isEmpty_eq_false_iff, List.all_eq_true,
        decide_eq_true_eq, List.contains_iff_mem, mem_inner_iff] at h
      obtain ⟨⟨⟨hne, hmailbox⟩, hdomain⟩, front, back, rfl, hfront, hback⟩ := h
      have hat : '@' ∉ s.toList.takeWhile (· ≠ '@') := fun hmem => by
        simpa using List.mem_takeWhile_imp hmem
      have hat' : '@' ∉ front ++ '.' :: back := fun hmem => (hdomain _ hmem).1 rfl
      rw [hdrop] at hcs
      refine ⟨fun c hc => ?_, ?_, _, front, back, hcs.symm, hne, hfront, hback⟩
      · rw [← hcs, List.mem_append, List.mem_cons] at hc
        rcases hc with hc | rfl | hc
        · exact hmailbox c hc
        · decide
        · exact (hdomain c hc).2
      · rw [← hcs, List.count_append, List.count_cons_self, List.count_eq_zero.2 hat,
          List.count_eq_zero.2 hat']
  · rintro ⟨hblank, hcount, mailbox, front, back, hs, hmailbox, hfront, hback⟩
    -- there is one `@`, so none on either side of it
    rw [hs] at hblank hcount ⊢
    rw [List.count_append, List.count_cons_self] at hcount
    have hat : '@' ∉ mailbox := List.count_eq_zero.1 (by omega)
    have hat' : '@' ∉ front ++ '.' :: back := List.count_eq_zero.1 (by omega)
    have hrun : ∀ c ∈ mailbox, decide (c ≠ '@') = true := fun c hc => by
      simpa using ne_of_mem_of_not_mem hc hat
    have hstop : ∀ c, ('@' :: (front ++ '.' :: back)).head? = some c →
        decide (c ≠ '@') = false := by
      rintro c ⟨⟩
      rfl
    rw [Text.takeWhile_append_of_stop hrun hstop, Text.dropWhile_append_of_stop hrun hstop]
    simp only [Bool.and_eq_true, Bool.not_eq_true', List.isEmpty_eq_false_iff, List.all_eq_true,
      decide_eq_true_eq, List.contains_iff_mem, mem_inner_iff]
    refine ⟨⟨⟨hmailbox, fun c hc => hblank c (List.mem_append_left _ hc)⟩, fun c hc =>
      ⟨ne_of_mem_of_not_mem hc hat', hblank c ?_⟩⟩, front, back, rfl, hfront, hback⟩
    exact List.mem_append_right _ (List.mem_cons_of_mem _ hc)

end Format

/-! ## Quantities -/

namespace Quantity

/-- The suffixes of quantities. -/
def suffixes : List String :=
  ["m", "k", "M", "G", "T", "P", "E", "Ki", "Mi", "Gi", "Ti", "Pi", "Ei"]

/-- How a quantity is written: as digits, maybe with a point and more digits behind them, and maybe
    with a suffix. -/
def Written (cs : List Char) : Prop :=
  ∃ integer fraction suffix, cs = integer ++ (fraction ++ suffix) ∧ Digits integer ∧
    (fraction = [] ∨ ∃ digits, fraction = '.' :: digits ∧ Digits digits) ∧
    (suffix = [] ∨ ∃ s ∈ suffixes, suffix = s.toList)

/-- Every scale has one of the suffixes, or none. -/
theorem exists_suffix_eq_iff {cs : List Char} :
    (∃ scale : Scale, cs = scale.suffix) ↔ cs = [] ∨ ∃ s ∈ suffixes, cs = s.toList := by
  constructor
  · rintro ⟨scale, rfl⟩
    cases scale <;> decide
  · rintro (rfl | ⟨s, hs, rfl⟩)
    · exact ⟨.one, rfl⟩
    · have hall : ∀ s ∈ suffixes, (Scale.ofSuffix? s.toList).isSome := by decide
      obtain ⟨scale, hscale⟩ := Option.isSome_iff_exists.1 (hall s hs)
      exact ⟨scale, (Scale.ofSuffix?_eq_some_iff.1 hscale).symm⟩

/-- The texts of quantities are written like that. -/
theorem written_iff_exists_spells {cs : List Char} : Written cs ↔ ∃ q, Spells cs q := by
  constructor
  · rintro ⟨integer, fraction, suffix, rfl, hinteger, hfraction, hsuffix⟩
    obtain ⟨scale, rfl⟩ := exists_suffix_eq_iff.2 hsuffix
    rcases hfraction with rfl | ⟨digits, rfl, hdigits⟩
    · exact ⟨_, .whole scale hinteger⟩
    · exact ⟨_, .decimal scale hinteger hdigits⟩
  · rintro ⟨q, hq⟩
    cases hq with
    | whole scale hinteger =>
      exact ⟨_, [], _, rfl, hinteger, .inl rfl, exists_suffix_eq_iff.1 ⟨scale, rfl⟩⟩
    | decimal scale hinteger hfraction =>
      exact ⟨_, '.' :: _, _, rfl, hinteger, .inr ⟨_, rfl, hfraction⟩,
        exists_suffix_eq_iff.1 ⟨scale, rfl⟩⟩

/-- A quantity starts with a digit, and no blank stands in it. -/
theorem Written.ne_nil_and_not_blank {cs : List Char} (h : Written cs) :
    cs ≠ [] ∧ ∀ c ∈ cs, Text.isBlank c = false := by
  obtain ⟨integer, fraction, suffix, rfl, hinteger, hfraction, hsuffix⟩ := h
  refine ⟨by simp [hinteger.ne_nil], fun c hc => ?_⟩
  rcases List.mem_append.1 hc with hc | hc
  · exact Text.isBlank_eq_false_of_isDigit (hinteger.isDigit c hc)
  · rcases List.mem_append.1 hc with hc | hc
    · rcases hfraction with rfl | ⟨digits, rfl, hdigits⟩
      · exact absurd hc List.not_mem_nil
      · rcases List.mem_cons.1 hc with rfl | hc
        · decide
        · exact Text.isBlank_eq_false_of_isDigit (hdigits.isDigit c hc)
    · rcases hsuffix with rfl | ⟨s, hs, rfl⟩
      · exact absurd hc List.not_mem_nil
      · have hall : suffixes.all (fun s => s.toList.all fun c => !Text.isBlank c) = true := by
          decide
        simpa using List.all_eq_true.1 (List.all_eq_true.1 hall s hs) c hc

/-- Quantities are read from their texts, with any blanks around these. -/
theorem isSome_amount?_iff {s : String} :
    (amount? s).isSome = true ↔
      ∃ before text after, s.toList = before ++ (text ++ after) ∧ Written text ∧
        (∀ c ∈ before, Text.isBlank c = true) ∧ ∀ c ∈ after, Text.isBlank c = true := by
  -- the reader takes the blanks off first
  have htrimmed : (amount? s).isSome = true ↔ Written (Text.trimmed s.toList) := by
    rw [amount?, Option.isSome_map, Option.isSome_iff_exists, written_iff_exists_spells]
    simp only [ofText?_eq_some_iff]
  rw [htrimmed]
  constructor
  · intro h
    obtain ⟨before, after, hs, hbefore, hafter⟩ := Text.exists_eq_append_trimmed s.toList
    exact ⟨before, _, after, hs, h, hbefore, hafter⟩
  · rintro ⟨before, text, after, hs, h, hbefore, hafter⟩
    obtain ⟨hne, hblank⟩ := h.ne_nil_and_not_blank
    rwa [hs, Text.trimmed_append hbefore hafter hne hblank]

end Quantity

/-- The recognisers of addresses take the texts of their grammars, and quantities are read from
    theirs with blanks around them; nothing else is taken. -/
theorem Format.recognised_iff (s : String) :
    (isAccountAddress s = true ↔ Account s.toList) ∧
    (isEnode s = true ↔ Enode s.toList) ∧
    (isEmail s = true ↔ Email s.toList) ∧
    ((Quantity.amount? s).isSome = true ↔
      ∃ before text after, s.toList = before ++ (text ++ after) ∧ Quantity.Written text ∧
        (∀ c ∈ before, Text.isBlank c = true) ∧ ∀ c ∈ after, Text.isBlank c = true) :=
  ⟨isAccountAddress_iff, isEnode_iff, isEmail_iff, Quantity.isSome_amount?_iff⟩

end Nodewright
