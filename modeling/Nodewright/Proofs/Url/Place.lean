import Nodewright.Url.Parser

/-!
# Hosts and ports of addresses

Not every address says where to connect to: some schemes have no authority, the host of an authority
may be empty, and most schemes have no port of their own. The reader of addresses turns down a port
or a user without a host, and an address with a special scheme without one. So a port is never
without a host, and the schemes with a port of their own always have both.

## Key results

- `WellPlaced`: what the reader makes sure of in an authority
- `authorityOf?_host`, `locationOf?_wellPlaced`: the reader does so
- `exists_host?_of_port?`: an address with a port has a host
- `exists_port?_of_scheme`: which schemes have a port of their own
- `ne_empty_of_host?`: a host is not empty
-/

namespace Nodewright.Url

/-! ## Reading hosts and ports -/

/-- The host of a special address is not empty. -/
theorem Host.ofDomain?_ne_empty {cs : List Char} {host : Host} (h : ofDomain? cs = some host) :
    host ≠ .name "" := by
  simp only [ofDomain?, Option.bind_eq_bind, Option.pure_def] at h
  split at h
  · -- an address in brackets is no name
    obtain ⟨inner, -, h⟩ := Option.bind_eq_some_iff.1 h
    obtain ⟨groups, -, h⟩ := Option.bind_eq_some_iff.1 h
    cases h
    exact Host.noConfusion
  · obtain ⟨decoded, -, h⟩ := Option.bind_eq_some_iff.1 h
    obtain ⟨name, -, h⟩ := Option.bind_eq_some_iff.1 h
    split at h
    · cases h
    · next hname =>
      split at h
      · obtain ⟨address, -, h⟩ := Option.bind_eq_some_iff.1 h
        cases h
        exact Host.noConfusion
      · cases h
        simpa using hname

/-- Behind a host that nothing follows there is no port. -/
theorem ne_nil_of_portOf? {scheme : String} {cs rest : List Char} {port : Option UInt16}
    (h : portOf? scheme cs = some (port, rest)) (hport : port.isSome) : cs ≠ [] := by
  rintro rfl
  cases h
  exact nomatch hport

/-- An authority has a host if the scheme is special, and if it has a port. -/
theorem authorityOf?_host {scheme : String} {isLast : Bool} {cs rest : List Char} {a : Authority}
    (h : authorityOf? scheme isLast cs = some (a, rest)) :
    (isSpecial scheme = true → a.host ≠ .name "") ∧ (a.port.isSome → a.host ≠ .name "") := by
  simp only [authorityOf?, Option.bind_eq_bind, Option.pure_def] at h
  split at h
  · cases h
  · split at h
    · obtain ⟨host, hhost, h⟩ := Option.bind_eq_some_iff.1 h
      obtain ⟨⟨port, behind⟩, -, h⟩ := Option.bind_eq_some_iff.1 h
      have hne : host ≠ .name "" := Host.ofDomain?_ne_empty hhost
      split at h
      · cases h
      · cases h
        exact ⟨fun _ => hne, fun _ => hne⟩
    · next hplain =>
      obtain ⟨host, -, h⟩ := Option.bind_eq_some_iff.1 h
      obtain ⟨⟨port, behind⟩, hport, h⟩ := Option.bind_eq_some_iff.1 h
      split at h
      · cases h
      · next hplace =>
        cases h
        refine ⟨fun hspecial => absurd hspecial hplain, ?_⟩
        -- a port follows the host, and an empty host is turned down if anything does
        rintro hsome rfl
        simp [ne_nil_of_portOf? hport hsome] at hplace

/-- A file is at no port. -/
theorem fileOf?_port {cs : List Char} {a : Authority} {path : Path}
    (h : fileOf? cs = some (a, path)) : a.port = none := by
  -- each branch puts the file on this machine or on a host, and says nothing of a port
  have hhere {t : Trail} (h : fileHere t = (a, path)) : a.port = none := by
    cases h
    rfl
  simp only [fileOf?] at h
  split at h
  · exact hhere (Option.some.inj h)
  · split at h
    · exact hhere (Option.some.inj h)
    · split at h
      · exact hhere (Option.some.inj h)
      · obtain ⟨host, -, h⟩ := Option.map_eq_some_iff.1 h
        split at h
        · exact hhere h
        · split at h
          · exact hhere h
          · cases h
            rfl

/-! ## Authorities of addresses that are read -/

/-- An address with a special scheme that is no file's has a host, and so has one with a port. -/
structure WellPlaced (scheme : String) (authority : Option Authority) : Prop where
  special : isSpecial scheme = true → scheme ≠ "file" →
    ∃ a, authority = some a ∧ a.host ≠ .name ""
  port : ∀ a, authority = some a → a.port.isSome → a.host ≠ .name ""

/-- The reader of what follows the scheme makes sure of it. -/
theorem locationOf?_wellPlaced {scheme : String} {isLast : Bool} {cs : List Char}
    {authority : Option Authority} {path : Path}
    (h : locationOf? scheme isLast cs = some (authority, path)) : WellPlaced scheme authority := by
  -- with two strokes there is an authority, whether or not the scheme is special
  have hplaced {cs : List Char} {isLast : Bool}
      {f : Authority × List Char → Option Authority × Path}
      (hf : ∀ a rest, (f (a, rest)).1 = some a)
      (h : (authorityOf? scheme isLast cs).map f = some (authority, path)) :
      WellPlaced scheme authority := by
    obtain ⟨⟨a, rest⟩, ha, hpair⟩ := Option.map_eq_some_iff.1 h
    obtain ⟨hspecial, hport⟩ := authorityOf?_host ha
    obtain rfl : some a = authority := by rw [← hf a rest, hpair]
    exact ⟨fun hs _ => ⟨a, rfl, hspecial hs⟩, fun b hb => Option.some.inj hb ▸ hport⟩
  simp only [locationOf?] at h
  split at h
  · next hfile =>
    obtain ⟨⟨a, p⟩, ha, hpair⟩ := Option.map_eq_some_iff.1 h
    cases hpair
    refine ⟨fun _ hne => absurd hfile hne, fun b hb hsome => ?_⟩
    rw [← Option.some.inj hb, fileOf?_port ha] at hsome
    exact nomatch hsome
  · split at h
    · exact hplaced (fun _ _ => rfl) h
    · next hplain =>
      split at h
      · exact hplaced (fun _ _ => rfl) h
      · cases h
        exact ⟨fun hs => absurd hs hplain, nofun⟩
      · cases h
        exact ⟨fun hs => absurd hs hplain, nofun⟩

/-- So every address that is read is well placed. -/
theorem ofText?_wellPlaced {s : String} {u : Url} (h : ofText? s = some u) :
    WellPlaced u.scheme u.authority := by
  simp only [ofText?, Option.bind_eq_bind, Option.pure_def] at h
  obtain ⟨⟨scheme, rest⟩, -, h⟩ := Option.bind_eq_some_iff.1 h
  obtain ⟨⟨authority, path⟩, hlocation, h⟩ := Option.bind_eq_some_iff.1 h
  cases h
  exact locationOf?_wellPlaced hlocation

/-! ## Where to connect to -/

/-- Only special schemes that are no file's have a port of their own. -/
theorem isSpecial_of_defaultPort? {scheme : String} {p : UInt16}
    (h : defaultPort? scheme = some p) : isSpecial scheme = true ∧ scheme ≠ "file" := by
  obtain ⟨entry, hfind, -⟩ := Option.bind_eq_some_iff.1 h
  have hentry : (entry.1 == scheme) = true := by simpa using List.find?_some hfind
  refine ⟨List.any_eq_true.2 ⟨entry, List.mem_of_find?_eq_some hfind, hentry⟩, ?_⟩
  rintro rfl
  have hfile : defaultPort? "file" = none := by decide
  exact nomatch hfile.symm.trans h

/-- A host that is not the empty name is not empty as text either. -/
theorem Host.text_ne_empty {host : Host} (h : host ≠ .name "") : host.text ≠ "" := by
  intro htext
  cases host with
  | name s => exact h (congrArg Host.name htext)
  | four address => simp [text, fourText, List.intercalate] at htext
  | six groups => simp [text] at htext

variable {s : String} {u : Url}

/-- The host of an address is that of its authority, unless that is empty. -/
theorem host?_eq_some_iff {host : String} :
    u.host? = some host ↔
      ∃ a, u.authority = some a ∧ a.host ≠ .name "" ∧ a.host.text = host := by
  cases hauthority : u.authority with
  | none => simp [host?, hauthority]
  | some a => simp [host?, hauthority]

/-- A host is not empty. -/
theorem ne_empty_of_host? {host : String} (h : u.host? = some host) : host ≠ "" := by
  obtain ⟨a, -, hne, rfl⟩ := host?_eq_some_iff.1 h
  exact Host.text_ne_empty hne

/-- An address with a port, be it its own or that of its scheme, has a host. -/
theorem exists_host?_of_port? (h : ofText? s = some u) {p : UInt16} (hport : u.port? = some p) :
    ∃ host, u.host? = some host := by
  have hplaced := ofText?_wellPlaced h
  rw [port?] at hport
  -- the port is the address's own, or that of its scheme
  split at hport
  · next p' hown =>
    obtain ⟨a, ha, hp⟩ := Option.bind_eq_some_iff.1 hown
    have hne := hplaced.port a ha (hp ▸ rfl)
    exact ⟨_, host?_eq_some_iff.2 ⟨a, ha, hne, rfl⟩⟩
  · obtain ⟨hspecial, hfile⟩ := isSpecial_of_defaultPort? hport
    obtain ⟨a, ha, hne⟩ := hplaced.special hspecial hfile
    exact ⟨_, host?_eq_some_iff.2 ⟨a, ha, hne, rfl⟩⟩

/-- An address has a port if its scheme has one. -/
theorem exists_port?_of_scheme (h : u.scheme ∈ ["http", "https", "ws", "wss", "ftp"]) :
    ∃ p, u.port? = some p := by
  have hports : ∀ scheme ∈ ["http", "https", "ws", "wss", "ftp"], (defaultPort? scheme).isSome := by
    decide
  rw [port?]
  split
  · exact ⟨_, rfl⟩
  · exact Option.isSome_iff_exists.1 (hports _ h)

end Nodewright.Url
