import Mathlib.Computability.Language
import Mathlib.Order.CompletePartialOrder
import Nodewright.Proofs.Admission.History
import Nodewright.Proofs.Report.Extension

/-!
# Addresses that end in a peer

A multiaddress is a row of components, each of them a protocol with its value. Behind the row there
may be one more component, that of a peer, whose value is an identity in base 58. But the component
of a peer looks like any other one, so the row takes it up as well, and then nothing is asked of the
identity that is not asked of every value.

## Key results

- `Format.pairs_eq_components`: a text is a row of components iff its parts between strokes are
  pairs
- `Format.components_mul_optional`: what may stand behind a row and is itself a component changes
  nothing
- `Format.isMultiaddr_iff`, `Format.isMultiaddr_peer_iff`: which texts are addresses, and which of
  these end in a peer
- `Storage.ClusterPeer.addresses_of_admission`: what an admitted cluster peer asks of its addresses
- `Format.peer_unrestricted`: the identity of a peer may be any value
-/

namespace Nodewright

open scoped Computability

namespace Format

/-! ## Rows of components -/

/-- The name of a protocol. -/
def IsProtocol (cs : List Char) : Prop := cs ≠ [] ∧ ∀ c ∈ cs, isProtocolChar c = true

/-- The value of a protocol: anything without strokes and blanks. -/
structure IsValue (cs : List Char) : Prop where
  ne_nil : cs ≠ []
  ne_stroke : ∀ c ∈ cs, c ≠ '/'
  not_blank : ∀ c ∈ cs, Text.isBlank c = false

/-- The digits of base 58: those of numbers and letters without `0`, `O`, `I` and `l`. -/
def base58 : List Char := "123456789ABCDEFGHJKLMNPQRSTUVWXYZabcdefghijkmnopqrstuvwxyz".toList

/-- A protocol with its value. -/
def component : Language Char :=
  {cs | ∃ protocol value, cs = '/' :: (protocol ++ '/' :: value) ∧
    IsProtocol protocol ∧ IsValue value}

/-- One or more components. -/
def components : Language Char := component * component∗

/-- A peer with its identity. -/
def peer : Language Char :=
  {cs | ∃ id, cs = "/p2p/".toList ++ id ∧ id ≠ [] ∧ ∀ c ∈ id, c ∈ base58}

/-- The texts whose parts between strokes are pairs. -/
def pairs : Language Char := {cs | ∃ rest, cs = '/' :: rest ∧ arePairs (Text.parts '/' rest) = true}

/-- The recogniser knows the values of protocols. -/
theorem isValue_iff {cs : List Char} :
    (!cs.isEmpty && cs.all isComponentChar) = true ↔ IsValue cs := by
  simp only [isComponentChar, Bool.and_eq_true, Bool.not_eq_true', List.isEmpty_eq_false_iff,
    List.all_eq_true, decide_eq_true_eq]
  exact ⟨fun h => ⟨h.1, fun c hc => (h.2 c hc).1, fun c hc => (h.2 c hc).2⟩,
    fun h => ⟨h.ne_nil, fun c hc => ⟨h.ne_stroke c hc, h.not_blank c hc⟩⟩⟩

theorem isProtocol_iff {cs : List Char} :
    (!cs.isEmpty && cs.all isProtocolChar) = true ↔ IsProtocol cs := by
  simp [IsProtocol]

/-- The first two parts are a protocol and its value, and the others are pairs again. -/
theorem arePairs_cons_cons_iff {protocol value : List Char} {rest : List (List Char)} :
    arePairs (protocol :: value :: rest) = true ↔
      IsProtocol protocol ∧ IsValue value ∧ arePairs rest = true := by
  rw [arePairs, Bool.and_eq_true, Bool.and_eq_true, isProtocol_iff, isValue_iff, and_assoc]

/-- No name of a protocol holds a stroke. -/
theorem IsProtocol.stroke_notMem {cs : List Char} (h : IsProtocol cs) : '/' ∉ cs := fun hmem =>
  absurd (h.2 _ hmem) (by decide)

theorem IsValue.stroke_notMem {cs : List Char} (h : IsValue cs) : '/' ∉ cs := fun hmem =>
  h.ne_stroke _ hmem rfl

/-- A pair in front of a row makes a component of its own. -/
theorem flatMap_mem_components {protocol value : List Char} {rest : List (List Char)}
    (hprotocol : IsProtocol protocol) (hvalue : IsValue value)
    (hrest : rest.flatMap ('/' :: ·) ∈ component∗) :
    (protocol :: value :: rest).flatMap ('/' :: ·) ∈ components := by
  have hfirst : '/' :: (protocol ++ '/' :: value) ∈ component :=
    ⟨protocol, value, rfl, hprotocol, hvalue⟩
  have htext : (protocol :: value :: rest).flatMap ('/' :: ·) =
      '/' :: (protocol ++ '/' :: value) ++ rest.flatMap ('/' :: ·) := by
    simp
  rw [htext]
  exact Language.append_mem_mul hfirst hrest

/-- Pairs make a row of components, which may be empty. -/
theorem flatMap_mem_kstar {ps : List (List Char)} (h : arePairs ps = true) :
    ps.flatMap ('/' :: ·) ∈ component∗ := by
  -- induction along the recogniser, which takes two parts at a time
  induction ps using arePairs.induct with
  | case1 => exact Language.nil_mem_kstar component
  | case2 part => cases h
  | case3 protocol value rest ih =>
    obtain ⟨hprotocol, hvalue, hrest⟩ := arePairs_cons_cons_iff.1 h
    have hrow : components ≤ component∗ := mul_kstar_le_kstar
    exact hrow (flatMap_mem_components hprotocol hvalue (ih hrest))

/-- A component by itself is a pair. -/
theorem component_le_pairs : component ≤ pairs := by
  rintro _ ⟨protocol, value, rfl, hprotocol, hvalue⟩
  refine ⟨_, rfl, ?_⟩
  rw [Text.parts_append_cons, Text.parts_of_notMem hprotocol.stroke_notMem,
    Text.parts_of_notMem hvalue.stroke_notMem]
  exact arePairs_cons_cons_iff.2 ⟨hprotocol, hvalue, rfl⟩

/-- A component in front of pairs makes one pair more. -/
theorem component_mul_pairs_le : component * pairs ≤ pairs := by
  rintro _ ⟨_, ⟨protocol, value, rfl, hprotocol, hvalue⟩, _, ⟨rest, rfl, hrest⟩, rfl⟩
  refine ⟨protocol ++ '/' :: (value ++ '/' :: rest), by simp, ?_⟩
  rw [Text.parts_append_cons, Text.parts_append_cons, Text.parts_of_notMem hprotocol.stroke_notMem,
    Text.parts_of_notMem hvalue.stroke_notMem]
  exact arePairs_cons_cons_iff.2 ⟨hprotocol, hvalue, hrest⟩

/-- The parts of a text are pairs exactly if it is a row of components. -/
theorem pairs_eq_components : pairs = components := by
  apply le_antisymm
  · -- a text has at least one part, so pairs have a first one
    rintro _ ⟨rest, rfl, hrest⟩
    rw [Text.cons_eq_flatMap_parts]
    generalize hps : Text.parts '/' rest = ps at hrest
    match ps with
    | [] => exact absurd hps (Text.parts_ne_nil '/' rest)
    | [_] => cases hrest
    | protocol :: value :: more =>
      obtain ⟨hprotocol, hvalue, hmore⟩ := arePairs_cons_cons_iff.1 hrest
      exact flatMap_mem_components hprotocol hvalue (flatMap_mem_kstar hmore)
  · rw [components, ← Language.mul_self_kstar_comm]
    exact kstar_mul_le component_le_pairs component_mul_pairs_le

/-- The recogniser cuts a text at its strokes, and looks for pairs. -/
theorem isMultiaddr_iff_mem_pairs {s : String} : isMultiaddr s = true ↔ s.toList ∈ pairs := by
  rw [isMultiaddr]
  constructor
  · intro h
    split at h
    · next rest hs => exact ⟨rest, hs, h⟩
    · cases h
  · rintro ⟨rest, hs, h⟩
    rw [hs]
    exact h

/-! ## Peers at the end -/

/-- What is itself a component adds nothing behind a row of components. -/
theorem components_mul_optional {ending : Language Char} (h : ending ≤ component) :
    components * (1 + ending) = components := by
  -- a row goes on with the ending as with any component
  have hmore : components * ending ≤ components := by
    calc components * ending ≤ components * component := mul_le_mul_right h _
      _ = component * (component∗ * component) := by rw [components, mul_assoc]
      _ ≤ component * component∗ := by gcongr; exact kstar_mul_le_kstar
  rw [mul_add, mul_one, add_eq_left_iff_le]
  exact hmore

/-- A peer with its identity is a component. -/
theorem peer_le_component : peer ≤ component := by
  rintro _ ⟨id, rfl, hne, hid⟩
  have hbase : base58.all isComponentChar = true := by decide
  have hvalue (c : Char) (hc : c ∈ id) : isComponentChar c = true :=
    List.all_eq_true.1 hbase c (hid c hc)
  exact ⟨['p', '2', 'p'], id, rfl, isProtocol_iff.1 (by decide),
    isValue_iff.1 (by simpa [hne] using hvalue)⟩

/-- The recogniser takes what the pattern takes that asks for base 58 at the end. -/
theorem isMultiaddr_iff {s : String} :
    isMultiaddr s = true ↔ s.toList ∈ components * (1 + peer) := by
  rw [isMultiaddr_iff_mem_pairs, pairs_eq_components, components_mul_optional peer_le_component]

/-- A pair behind other ones is looked at by itself. -/
theorem arePairs_append_pair_iff {ps : List (List Char)} {protocol value : List Char} :
    arePairs (ps ++ [protocol, value]) = true ↔
      arePairs ps = true ∧ IsProtocol protocol ∧ IsValue value := by
  -- two parts at a time again; the pair at the end is reached last
  induction ps using arePairs.induct with
  | case1 =>
    rw [List.nil_append, arePairs_cons_cons_iff]
    simp [arePairs]
  | case2 part =>
    -- the parts are odd in number, with the pair and without it
    rw [List.singleton_append, arePairs_cons_cons_iff]
    simp [arePairs]
  | case3 first second rest ih =>
    rw [List.cons_append, List.cons_append, arePairs_cons_cons_iff, arePairs_cons_cons_iff, ih]
    simp only [and_assoc]

/-- An address ends in a peer if there is nothing in front of the peer or an address, and the
    identity is a value. -/
theorem isMultiaddr_peer_iff {address id : String} (h : '/' ∉ id.toList) :
    isMultiaddr (address ++ "/p2p/" ++ id) = true ↔
      (address = "" ∨ isMultiaddr address = true) ∧ IsValue id.toList := by
  have hprotocol : IsProtocol ['p', '2', 'p'] := isProtocol_iff.1 (by decide)
  have hparts : Text.parts '/' ("p2p/".toList ++ id.toList) = [['p', '2', 'p'], id.toList] := by
    have hcut := Text.parts_append_cons '/' ['p', '2', 'p'] id.toList
    rwa [Text.parts_of_notMem h] at hcut
  have htext : (address ++ "/p2p/" ++ id).toList =
      address.toList ++ '/' :: ("p2p/".toList ++ id.toList) := by
    simp
  have hempty : address = "" ↔ address.toList = [] := String.toList_eq_nil_iff.symm
  rw [isMultiaddr, isMultiaddr, htext, hempty]
  cases address.toList with
  | nil =>
    simp only [List.nil_append, hparts, true_or, true_and]
    rw [arePairs_cons_cons_iff]
    simp [hprotocol, arePairs]
  | cons c rest =>
    -- the parts in front of the peer are those of the address
    by_cases hc : c = '/'
    · subst hc
      have hcut := Text.parts_append_cons '/' rest ("p2p/".toList ++ id.toList)
      simp only [List.cons_append, hcut, hparts, arePairs_append_pair_iff, hprotocol, true_and,
        reduceCtorEq, false_or]
    · simp [hc]

end Format

/-! ## Cluster peers -/

namespace Storage.ClusterPeer

open Format (isMultiaddr)

variable {p : ClusterPeer}

/-- The addresses of a cluster peer: that of its storage peer, and those of the peers that it meets
    the cluster through. -/
def addresses (p : ClusterPeer) : List String := p.peerEndpoint :: p.bootstrapPeers

/-- A cluster peer with other addresses. -/
def withAddresses (endpoint : String) (peers : List String) (p : ClusterPeer) : ClusterPeer :=
  { p with peerEndpoint := endpoint, bootstrapPeers := peers }

/-- The rules on addresses ask for multiaddresses. -/
theorem addressRules_eq_nil_iff :
    p.endpointRule = [] ∧ p.bootstrapFormat = [] ↔
      ∀ address ∈ p.addresses, isMultiaddr address = true := by
  have hendpoint : p.endpointRule = [] ↔ isMultiaddr p.peerEndpoint = true := by
    rw [endpointRule]
    split
    · next hempty =>
      have hnot : isMultiaddr "" = false := rfl
      simp [hempty, hnot]
    · simp
  rw [hendpoint, bootstrapFormat, Report.flatMap_zipIdx_eq_nil_iff fun address i => by
    rw [Report.when_eq_nil, Bool.not_eq_false'], addresses, List.forall_mem_cons]

/-- Other rules do not look at addresses. -/
theorem problems_withAddresses (h : p.problems = []) {endpoint : String} {peers : List String}
    (haddresses : ∀ address ∈ endpoint :: peers, isMultiaddr address = true) :
    (p.withAddresses endpoint peers).problems = [] := by
  simp only [problems, List.append_eq_nil_iff] at h ⊢
  obtain ⟨⟨⟨⟨⟨⟨⟨-, hsecret⟩, hid⟩, hkey⟩, htrusted⟩, -⟩, hlogging⟩, hresources⟩ := h
  obtain ⟨hendpoint, hbootstrap⟩ :=
    (addressRules_eq_nil_iff (p := p.withAddresses endpoint peers)).2 haddresses
  exact ⟨⟨⟨⟨⟨⟨⟨hendpoint, hsecret⟩, hid⟩, hkey⟩, htrusted⟩, hbootstrap⟩, hlogging⟩, hresources⟩

/-- An admitted cluster peer has multiaddresses, and is admitted with any other ones. -/
theorem addresses_of_admission {images : Image.Overrides} {old : Option Manifest} {name : String}
    {a : Admitted} (h : Manifest.admission images old ⟨name, .clusterPeer p⟩ = .ok a) :
    (∀ address ∈ p.addresses, isMultiaddr address = true) ∧
      ∀ endpoint peers, (∀ address ∈ endpoint :: peers, isMultiaddr address = true) →
        ∃ a', Manifest.admission images old
          ⟨name, .clusterPeer (p.withAddresses endpoint peers)⟩ = .ok a' := by
  have hproblems : (p.fill images).problems = [] := (Manifest.problems_eq_nil_of_admission h).2
  constructor
  · have hrules := hproblems
    simp only [problems, List.append_eq_nil_iff] at hrules
    obtain ⟨⟨⟨⟨⟨⟨⟨hendpoint, -⟩, -⟩, -⟩, -⟩, hbootstrap⟩, -⟩, -⟩ := hrules
    -- filling leaves the addresses alone
    exact addressRules_eq_nil_iff (p := p.fill images) |>.1 ⟨hendpoint, hbootstrap⟩
  · intro endpoint peers haddresses
    have hother : ((p.fill images).withAddresses endpoint peers).problems = [] :=
      problems_withAddresses hproblems haddresses
    obtain ⟨hafter, -⟩ := Manifest.admission_eq_ok_iff.1 h
    refine ⟨_, Manifest.admission_eq_ok_iff.2 ⟨?_, rfl⟩⟩
    cases old with
    | none => exact hother
    | some o =>
      obtain ⟨_, s⟩ := o
      cases s with
      | clusterPeer s =>
        -- addresses may change
        have htransitions := (List.append_eq_nil_iff.1 hafter).2
        exact List.append_eq_nil_iff.2 ⟨hother, htransitions⟩
      | _ => cases hafter

/-- A cluster peer at the given address of a storage peer, which meets its cluster through the
    given peers. -/
def meeting (endpoint : String) (peers : List String) : ClusterPeer where
  client := .ipfsClusterService
  image := none
  consensus := .crdt
  peerEndpoint := endpoint
  clusterSecretName := "secret"
  id := none
  privatekeySecretName := none
  trustedPeers := []
  bootstrapPeers := peers
  logging := none
  resources := .none

end Storage.ClusterPeer

namespace Format

open Storage (ClusterPeer)

/-- The pattern of a multiaddress names base 58 for a peer at the end, and does not enforce it:
    behind an address, or behind nothing, a peer is taken with any value for its identity. What is
    kept out is an identity that is no value, or that stands behind what is no address; base 58
    makes no difference. The addresses of an admitted cluster peer are as free as that: the identity
    is a value, and with other multiaddresses in their places the cluster peer is admitted too. -/
theorem peer_unrestricted (address id : String) (hid : '/' ∉ id.toList) :
    (∀ s, isMultiaddr s = true ↔ s.toList ∈ components * (1 + peer)) ∧
    (isMultiaddr (address ++ "/p2p/" ++ id) = true ↔
      (address = "" ∨ isMultiaddr address = true) ∧ IsValue id.toList) ∧
    ((isMultiaddr (address ++ "/p2p/" ++ id) = true → ∀ c ∈ id.toList, c ∈ base58) ↔
      (∀ c ∈ id.toList, c ∈ base58) ∨ ¬ IsValue id.toList ∨
        (address ≠ "" ∧ isMultiaddr address = false)) ∧
    ∀ (images : Image.Overrides) (old : Option Manifest) (name : String) (p : ClusterPeer)
      (a : Admitted), Manifest.admission images old ⟨name, .clusterPeer p⟩ = .ok a →
      (address ++ "/p2p/" ++ id ∈ p.addresses → IsValue id.toList) ∧
      ∀ endpoint peers, (∀ address ∈ endpoint :: peers, isMultiaddr address = true) →
        ∃ a', Manifest.admission images old
          ⟨name, .clusterPeer (p.withAddresses endpoint peers)⟩ = .ok a' := by
  have haccepted := @isMultiaddr_peer_iff address id hid
  refine ⟨fun s => isMultiaddr_iff, haccepted, ?_, ?_⟩
  · rw [haccepted, imp_iff_or_not, not_and_or, not_or, Bool.not_eq_true,
      or_comm (a := _ ∧ _)]
  · intro images old name p a h
    obtain ⟨haddresses, hothers⟩ := ClusterPeer.addresses_of_admission h
    exact ⟨fun hmem => (haccepted.1 (haddresses _ hmem)).2, hothers⟩

/-- A cluster peer is admitted whose storage peer has an identity that is not in base 58. -/
theorem peer_unrestricted_meeting :
    ∃ a, Manifest.admission .none none ⟨"peer", .clusterPeer
      (ClusterPeer.meeting "/ip4/10.0.0.2/tcp/9096/p2p/0OIl" [])⟩ = .ok a := by
  obtain ⟨-, hpeer, -, hadmitted⟩ :=
    peer_unrestricted "/ip4/10.0.0.2/tcp/9096" "0OIl" (by decide)
  have hid : IsValue "0OIl".toList := isValue_iff.1 (by decide)
  have haddress : isMultiaddr "/ip4/10.0.0.2/tcp/9096/p2p/0OIl" = true :=
    hpeer.2 ⟨.inr (by decide +kernel), hid⟩
  have ha : Manifest.admission .none none
      ⟨"peer", .clusterPeer (ClusterPeer.meeting "/dns4/peer/tcp/5001" [])⟩ = .ok _ :=
    Manifest.admission_eq_ok_iff.2 ⟨by decide +kernel, rfl⟩
  exact (hadmitted _ _ _ _ _ ha).2 _ [] (List.forall_mem_singleton.2 haddress)

/-- An address with an identity that is not in base 58 is taken by itself, and in each of the places
    for addresses of a cluster peer. -/
theorem exists_peer_not_base58 :
    ∃ address id : String, isMultiaddr (address ++ "/p2p/" ++ id) = true ∧ '/' ∉ id.toList ∧
      (¬ ∀ c ∈ id.toList, c ∈ base58) ∧
      ∃ a, Manifest.admission .none none ⟨"peer", .clusterPeer (ClusterPeer.meeting
        (address ++ "/p2p/" ++ id) [address ++ "/p2p/" ++ id])⟩ = .ok a :=
  ⟨"/ip4/10.0.0.2/tcp/9096", "0OIl", by decide +kernel, by decide,
    fun h => absurd (h '0' (by decide)) (by decide), _,
    Manifest.admission_eq_ok_iff.2 ⟨by decide +kernel, rfl⟩⟩

end Format

end Nodewright
