import Mathlib.Data.List.Nodup
import Nodewright.Proofs.Admission.History
import Nodewright.Proofs.Codec.Records
import Nodewright.Proofs.Json.Places

/-!
# What a change is checked for

A spec that takes the place of an older one of its kind is compared with it at some places only. A
`Demand` names such a place, and `Kind.demands` lists the demands of each kind. Places are those of
the JSON form of a spec, which every member of a spec has a part in.

## Key results

- `Demand.report_same`: a demand on a member compares the values of the member
- `Execution.Network.report_demands` and its like for the other kinds: the rules on changes are the
  demands of the kind
- `Kind.nodup_places`: no two demands are made at the same place
- `Manifest.changeProblems_eq_breaches`: the report on a change is that on the manifest itself, and
  what breaks the demands
-/

namespace Nodewright

open FieldPath (field)
open Report (when)

/-! ## Demands -/

/-- What a later version of a spec has to meet at a place. -/
inductive Demand where
  /-- The value stays, or there is none before and after. -/
  | same (place : FieldPath)
  /-- The amount does not shrink, where there is one before and after. -/
  | noLess (place : FieldPath)
deriving DecidableEq

/-- The text of a string. -/
def Json.string? : Json → Option String
  | .string s => some s
  | _ => none

/-- What a report shows of a value: texts, numbers, and texts in a list with commas between them. -/
def Json.shown : Json → String
  | .string s => s
  | .number (.natural n) => toString n.toNat
  | .array items => Text.joinWith "," (items.filterMap Json.string?)
  | _ => ""

namespace Demand

/-- The place of a demand. -/
def place : Demand → FieldPath
  | same place => place
  | noLess place => place

/-- What two versions of a spec break of a demand. -/
def report (old new : Json) : Demand → Report
  | same place =>
    when (old.at? place.steps ≠ new.at? place.steps)
      (.immutable place (.text (((new.at? place.steps).map Json.shown).getD "")))
  | noLess place =>
    match old.at? place.steps, new.at? place.steps with
    | some (.string t), some (.string s) =>
      when (Quantity.isLess s t)
        (.invalid place (.text s) ("must be greater than or equal to old storage " ++ t))
    | _, _ => []

end Demand

/-- The demands on the resources at a place. -/
def Resources.demands (path : FieldPath) : List Demand :=
  [.noLess (path.child "storage"), .same (path.child "storageClass")]

/-- The fields of a kind that do not change. -/
def Kind.fixed : Kind → List String
  | network => ["join", "consensus", "genesis", "id"]
  | beaconNode | validator => ["network", "client"]
  | peer => ["initProfiles"]
  | clusterPeer => ["consensus", "id", "privatekeySecretName", "clusterSecretName"]
  | chainlinkNode => ["ethereumChainId", "linkContractAddress"]
  | aptosNode => ["network"]

/-- The demands on the nodes of a network, of which so many stand at the same place before and
    after. -/
def Execution.Network.nodeDemands (shared : Nat) : List Demand :=
  (List.range shared).map (fun i => .same ((nodeField i).child "name")) ++
  (List.range shared).flatMap fun i => Resources.demands ((nodeField i).child "resources")

/-- The demands on a spec of a kind, in the order of their reports. -/
def Kind.demands (kind : Kind) (shared : Nat) : List Demand :=
  kind.fixed.map (fun name => .same (field name)) ++
    if kind = .network then Execution.Network.nodeDemands shared
    else Resources.demands (field "resources")

/-! ## Members and resources -/

namespace Demand

variable {v w : Json} {place : FieldPath}

/-- A demand that a member stays compares the values of the member. -/
theorem report_same {α : Type} [DecidableEq α] {m : Member α} [∀ a, m.ReadsBack 4 a] {a b : α}
    (hv : v.at? place.steps = m.write a) (hw : w.at? place.steps = m.write b) :
    report v w (.same place) =
      when (a ≠ b) (.immutable place (.text (((m.write b).map Json.shown).getD ""))) := by
  simp only [report, hv, hw, ne_eq, (Member.write_injective 4).eq_iff]

/-- What is shown of a text that may be missing. -/
theorem shown_text (o : Option String) :
    (((o.map Codec.text.encode).map Json.shown)).getD "" = o.getD "" := by
  cases o <;> rfl

end Demand

/-- The demands on resources are the rules on them. -/
theorem Resources.report_demands {v w : Json} {path : FieldPath} {r s : Resources}
    (hv : v.at? path.steps = some (codec.encode r))
    (hw : w.at? path.steps = some (codec.encode s)) :
    (demands path).flatMap (Demand.report v w) = r.transitions s path := by
  have hstorage {u : Json} {r : Resources} (hu : u.at? path.steps = some (codec.encode r)) :
      u.at? (path.child "storage").steps = (Member.optional "storage" .text).write r.storage := by
    rw [FieldPath.steps_child, Json.at?_append, hu]
    simp [codec]
  have hclass {u : Json} {r : Resources} (hu : u.at? path.steps = some (codec.encode r)) :
      u.at? (path.child "storageClass").steps =
        (Member.optional "storageClass" .text).write r.storageClass := by
    rw [FieldPath.steps_child, Json.at?_append, hu]
    simp [codec]
  -- the first of the two demands has a rule of its own, and the other one is on a member
  rw [demands, List.flatMap_cons, List.flatMap_cons, List.flatMap_nil, List.append_nil,
    Demand.report_same (hclass hv) (hclass hw), transitions]
  congr 1
  · rw [Demand.report, hstorage hv, hstorage hw, storageRule]
    cases r.storage <;> cases s.storage <;> rfl
  · cases s.storageClass <;> simp [ne_comm, Codec.text, Json.shown]

namespace Execution.Network

/-- What stands at the place of a node. -/
theorem at?_nodeField (n : Network) (i : Nat) :
    (codec.encode n).at? (nodeField i).steps = n.nodes[i]?.map Node.codec.encode := by
  have hnodes : (codec.encode n).at? (field "nodes").steps =
      some (.array (n.nodes.map Node.codec.encode)) := by
    simp [codec, Chain.members, lookupEntry_append, lookupEntry_cons, Codec.list]
  rw [nodeField, FieldPath.steps_index, Json.at?_append, hnodes, Option.bind_some,
    Json.at?_array_index, List.getElem?_map]

/-- A member of a chain that may be missing stays. -/
theorem report_changed {α : Type} [DecidableEq α] (name : String) (c : Codec α) [c.Lawful 4]
    (get : Chain → Option α) (text : α → String) (htext : ∀ a, (c.encode a).shown = text a)
    (hget : ∀ n : Network, (codec.encode n).at? [.child name] =
      (Member.optional name c).write (get n.chain)) (s t : Network) :
    Demand.report (codec.encode s) (codec.encode t) (.same (field name)) =
      changed name text (get s.chain) (get t.chain) := by
  rw [Demand.report_same (hget s) (hget t), changed, Member.write_optional, Option.map_map,
    show Json.shown ∘ c.encode = text from funext htext]

/-- The demands on nodes are the rules on the nodes that stand at the same place. -/
theorem report_nodeDemands (s t : Network) :
    (nodeDemands (min s.nodes.length t.nodes.length)).flatMap
      (Demand.report (codec.encode s) (codec.encode t)) =
        renamed s t ++ resourceTransitions s t := by
  have hplaces : List.range (min s.nodes.length t.nodes.length) = (pairs s t).map Prod.snd := by
    rw [pairs, List.zipIdx_map_snd, List.length_zip, List.range_eq_range']
  rw [nodeDemands, hplaces, List.flatMap_append, List.flatMap_map, List.flatMap_map,
    List.flatMap_map, List.flatMap_assoc]
  -- what stands at the place of a pair are the two nodes of the pair
  have hat (n n' : Node) (i : Nat) (h : ((n, n'), i) ∈ pairs s t) :
      (codec.encode s).at? (nodeField i).steps = some (Node.codec.encode n) ∧
        (codec.encode t).at? (nodeField i).steps = some (Node.codec.encode n') := by
    obtain ⟨hn, hn'⟩ :=
      List.getElem?_zip_eq_some.1 (List.mk_mem_zipIdx_iff_getElem?.1 h)
    rw [at?_nodeField, at?_nodeField, hn, hn']
    exact ⟨rfl, rfl⟩
  congr 1
  · refine List.flatMap_congr ?_
    rintro ⟨⟨n, n'⟩, i⟩ hpair
    obtain ⟨hn, hn'⟩ := hat n n' i hpair
    have hname {u : Json} {n : Node} (hu : u.at? (nodeField i).steps = some (Node.codec.encode n)) :
        u.at? ((nodeField i).child "name").steps = (Member.required "name" .text).write n.name := by
      rw [FieldPath.steps_child, Json.at?_append, hu]
      simp [Node.codec]
    exact Demand.report_same (hname hn) (hname hn')
  · refine List.flatMap_congr ?_
    rintro ⟨⟨n, n'⟩, i⟩ hpair
    obtain ⟨hn, hn'⟩ := hat n n' i hpair
    have hresources {u : Json} {n : Node}
        (hu : u.at? (nodeField i).steps = some (Node.codec.encode n)) :
        u.at? ((nodeField i).child "resources").steps =
          some (Resources.codec.encode n.resources) := by
      rw [FieldPath.steps_child, Json.at?_append, hu]
      simp [Node.codec]
    exact Resources.report_demands (hresources hn) (hresources hn')

/-- What breaks the demands on a network is what the rules on its changes find. -/
theorem report_demands (s t : Network) :
    (Kind.network.demands (min s.nodes.length t.nodes.length)).flatMap
      (Demand.report (codec.encode s) (codec.encode t)) = s.transitions t := by
  have hjoin := report_changed "join" (.choice PublicNetwork) Chain.join PublicNetwork.name
    (fun _ => rfl) (by simp [codec, Chain.members, lookupEntry_append, lookupEntry_cons]) s t
  have hconsensus := report_changed "consensus" (.choice Consensus) Chain.consensus Consensus.name
    (fun _ => rfl) (by simp [codec, Chain.members, lookupEntry_append, lookupEntry_cons]) s t
  have hgenesis := report_changed "genesis" Genesis.codec Chain.genesis (fun _ => "")
    (fun _ => rfl) (by simp [codec, Chain.members, lookupEntry_append, lookupEntry_cons]) s t
  have hid := report_changed "id" .word64 Chain.id (fun id => toString id.toNat)
    (fun _ => rfl) (by simp [codec, Chain.members, lookupEntry_append, lookupEntry_cons]) s t
  rw [Kind.demands, if_pos rfl, List.flatMap_append, report_nodeDemands]
  simp only [Kind.fixed, List.map_cons, List.map_nil, List.flatMap_cons, List.flatMap_nil,
    List.append_nil, hjoin, hconsensus, hgenesis, hid, transitions, List.append_assoc]

end Execution.Network

/-- The kinds other than networks have one block of resources. -/
private theorem Kind.report_demands {kind : Kind} (h : kind ≠ .network) {v w : Json}
    {r s : Resources} {report : Report}
    (hfixed : (kind.fixed.map fun name => .same (field name)).flatMap (Demand.report v w) = report)
    (hv : v.at? [.child "resources"] = some (Resources.codec.encode r))
    (hw : w.at? [.child "resources"] = some (Resources.codec.encode s)) (shared : Nat) :
    (kind.demands shared).flatMap (Demand.report v w) =
      report ++ r.transitions s (field "resources") := by
  rw [demands, if_neg h, List.flatMap_append, hfixed, Resources.report_demands hv hw]

/-- A beacon node and a validator keep the same two fields. -/
theorem Beacon.report_identity {v w : Json} {kind : Kind} {network network' : String}
    {client client' : Client} (hkind : kind.fixed = ["network", "client"])
    (hnetwork : v.at? [.child "network"] = some (.string network))
    (hnetwork' : w.at? [.child "network"] = some (.string network'))
    (hclient : v.at? [.child "client"] = some ((Codec.client Client kind).encode client))
    (hclient' : w.at? [.child "client"] = some ((Codec.client Client kind).encode client')) :
    (kind.fixed.map fun name => .same (field name)).flatMap (Demand.report v w) =
      identityTransitions network network' client client' := by
  have hsame : Demand.report v w (.same (field "network")) =
      when (network ≠ network') (.immutable (field "network") (.text network')) :=
    Demand.report_same (m := .required "network" .text) hnetwork hnetwork'
  have hsame' : Demand.report v w (.same (field "client")) =
      when (client ≠ client') (.immutable (field "client") (.text client'.name)) :=
    Demand.report_same (m := .required "client" (.client Client kind)) hclient hclient'
  simp only [hkind, List.map_cons, List.map_nil, List.flatMap_cons, List.flatMap_nil,
    List.append_nil, hsame, hsame', identityTransitions]

/-- The same for a beacon node. -/
theorem Beacon.Node.report_demands (s t : Node) (shared : Nat) :
    (Kind.beaconNode.demands shared).flatMap (Demand.report (codec.encode s) (codec.encode t)) =
      s.transitions t := by
  have hnetwork (n : Node) : (codec.encode n).at? [.child "network"] =
      some (.string n.network) := by
    simp [codec, Codec.text]
  have hclient (n : Node) : (codec.encode n).at? [.child "client"] =
      some ((Codec.client Client .beaconNode).encode n.client) := by
    simp [codec]
  have hidentity := Beacon.report_identity rfl (hnetwork s) (hnetwork t) (hclient s) (hclient t)
  exact Kind.report_demands (by decide) hidentity (by simp [codec]) (by simp [codec]) shared

theorem Beacon.Validator.report_demands (s t : Validator) (shared : Nat) :
    (Kind.validator.demands shared).flatMap (Demand.report (codec.encode s) (codec.encode t)) =
      s.transitions t := by
  have hnetwork (v : Validator) : (codec.encode v).at? [.child "network"] =
      some (.string v.network) := by
    simp [codec, Codec.text]
  have hclient (v : Validator) : (codec.encode v).at? [.child "client"] =
      some ((Codec.client Client .validator).encode v.client) := by
    simp [codec]
  have hidentity := Beacon.report_identity rfl (hnetwork s) (hnetwork t) (hclient s) (hclient t)
  exact Kind.report_demands (by decide) hidentity (by simp [codec]) (by simp [codec]) shared

/-- The names of profiles, as a list of them is shown. -/
theorem Storage.Peer.shown_profiles (name : String) (profiles : List Profile) :
    (((Member.listing name (.choice Profile)).write profiles).map Json.shown).getD "" =
      profileText profiles := by
  cases profiles with
  | nil => rfl
  | cons first others =>
    have htexts : ((first :: others).map (Codec.choice Profile).encode).filterMap Json.string? =
        (first :: others).map Profile.name := by
      rw [List.filterMap_map]
      exact congrFun (List.filterMap_eq_map (f := Profile.name)) (first :: others)
    exact congrArg (Text.joinWith ",") htexts

/-- The same for a peer, whose profiles are shown in one text. -/
theorem Storage.Peer.report_demands (s t : Peer) (shared : Nat) :
    (Kind.peer.demands shared).flatMap (Demand.report (codec.encode s) (codec.encode t)) =
      s.transitions t := by
  have hprofiles :
      Demand.report (codec.encode s) (codec.encode t) (.same (field "initProfiles")) =
        when (s.initProfiles ≠ t.initProfiles)
          (.immutable (field "initProfiles") (.text (profileText t.initProfiles))) := by
    rw [← shown_profiles "initProfiles"]
    exact Demand.report_same (by simp [codec]) (by simp [codec])
  refine Kind.report_demands (by decide) ?_ (by simp [codec]) (by simp [codec]) shared
  simp only [Kind.fixed, List.map_cons, List.map_nil, List.flatMap_cons, List.flatMap_nil,
    List.append_nil, hprofiles]

/-- The same for a cluster peer. -/
theorem Storage.ClusterPeer.report_demands (s t : ClusterPeer) (shared : Nat) :
    (Kind.clusterPeer.demands shared).flatMap (Demand.report (codec.encode s) (codec.encode t)) =
      s.transitions t := by
  have hconsensus : Demand.report (codec.encode s) (codec.encode t) (.same (field "consensus")) =
      when (s.consensus ≠ t.consensus)
        (.immutable (field "consensus") (.text t.consensus.name)) :=
    Demand.report_same (m := .defaulted "consensus" (.choice ClusterConsensus) .crdt)
      (by simp [codec]) (by simp [codec])
  have hid : Demand.report (codec.encode s) (codec.encode t) (.same (field "id")) =
      when (s.id ≠ t.id) (.immutable (field "id") (.text (t.id.getD ""))) := by
    rw [← Demand.shown_text]
    exact Demand.report_same (m := .optional "id" .text) (by simp [codec]) (by simp [codec])
  have hkey :
      Demand.report (codec.encode s) (codec.encode t) (.same (field "privatekeySecretName")) =
        when (s.privatekeySecretName ≠ t.privatekeySecretName)
          (.immutable (field "privatekeySecretName")
            (.text (t.privatekeySecretName.getD ""))) := by
    rw [← Demand.shown_text]
    exact Demand.report_same (m := .optional "privatekeySecretName" .text)
      (by simp [codec]) (by simp [codec])
  have hsecret :
      Demand.report (codec.encode s) (codec.encode t) (.same (field "clusterSecretName")) =
        when (s.clusterSecretName ≠ t.clusterSecretName)
          (.immutable (field "clusterSecretName") (.text t.clusterSecretName)) :=
    Demand.report_same (m := .defaulted "clusterSecretName" .text "")
      (by simp [codec]) (by simp [codec])
  refine Kind.report_demands (by decide) ?_ (by simp [codec]) (by simp [codec]) shared
  simp only [Kind.fixed, List.map_cons, List.map_nil, List.flatMap_cons, List.flatMap_nil,
    List.append_nil, hconsensus, hid, hkey, hsecret, List.append_assoc]

/-- The same for an oracle node. -/
theorem Oracle.Node.report_demands (s t : Node) (shared : Nat) :
    (Kind.chainlinkNode.demands shared).flatMap
      (Demand.report (codec.encode s) (codec.encode t)) = s.transitions t := by
  have hchain :
      Demand.report (codec.encode s) (codec.encode t) (.same (field "ethereumChainId")) =
        when (s.ethereumChainId ≠ t.ethereumChainId)
          (.immutable (field "ethereumChainId") (.text (toString t.ethereumChainId.toNat))) :=
    Demand.report_same (m := .required "ethereumChainId" .word64)
      (by simp [codec]) (by simp [codec])
  have hcontract :
      Demand.report (codec.encode s) (codec.encode t) (.same (field "linkContractAddress")) =
        when (s.linkContractAddress ≠ t.linkContractAddress)
          (.immutable (field "linkContractAddress") (.text t.linkContractAddress)) :=
    Demand.report_same (m := .required "linkContractAddress" .text)
      (by simp [codec]) (by simp [codec])
  refine Kind.report_demands (by decide) ?_ (by simp [codec]) (by simp [codec]) shared
  simp only [Kind.fixed, List.map_cons, List.map_nil, List.flatMap_cons, List.flatMap_nil,
    List.append_nil, hchain, hcontract]

/-- The same for an Aptos node. -/
theorem Aptos.Node.report_demands (s t : Node) (shared : Nat) :
    (Kind.aptosNode.demands shared).flatMap (Demand.report (codec.encode s) (codec.encode t)) =
      s.transitions t := by
  have hnetwork : Demand.report (codec.encode s) (codec.encode t) (.same (field "network")) =
      when (s.network ≠ t.network) (.immutable (field "network") (.text t.network.name)) :=
    Demand.report_same (m := .required "network" (.choice Network))
      (by simp [codec]) (by simp [codec])
  refine Kind.report_demands (by decide) ?_ (by simp [codec]) (by simp [codec]) shared
  simp only [Kind.fixed, List.map_cons, List.map_nil, List.flatMap_cons, List.flatMap_nil,
    List.append_nil, hnetwork]

/-! ## Every kind -/

/-- How many nodes stand at the same place in both specs. -/
def Spec.shared (s t : Spec) : Nat := min s.nodeNames.length t.nodeNames.length

/-- What a spec changes beside its own problems is what breaks the demands of the kind. -/
theorem Spec.changeProblems_eq {s t : Spec} (h : s.kind = t.kind) :
    s.changeProblems t = t.problems ++
      (t.kind.demands (s.shared t)).flatMap (Demand.report s.encode t.encode) := by
  -- specs of one kind are left, and only networks have nodes to count
  cases s <;> cases t <;> simp only [kind, reduceCtorEq] at h
  · next s t =>
    have hshared : (network s).shared (network t) = min s.nodes.length t.nodes.length := by
      simp only [shared, nodeNames, List.length_map]
    rw [hshared]
    exact congrArg (t.problems ++ ·) (s.report_demands t).symm
  · next s t => exact congrArg (t.problems ++ ·) (s.report_demands t _).symm
  · next s t => exact congrArg (t.problems ++ ·) (s.report_demands t _).symm
  · next s t => exact congrArg (t.problems ++ ·) (s.report_demands t _).symm
  · next s t => exact congrArg (t.problems ++ ·) (s.report_demands t _).symm
  · next s t => exact congrArg (t.problems ++ ·) (s.report_demands t _).symm
  · next s t => exact congrArg (t.problems ++ ·) (s.report_demands t _).symm

/-! ## One violation for each place -/

namespace Demand

/-- A demand is broken at its own place, and only once. -/
theorem map_field_report_sublist (v w : Json) (d : Demand) :
    ((d.report v w).map Violation.field).Sublist [d.place] := by
  have hwhen (b : Bool) (place : FieldPath) (value : Violation.Value) (detail : String) :
      ((when b (.invalid place value detail)).map Violation.field).Sublist [place] := by
    cases b
    · exact List.nil_sublist _
    · exact .refl _
  cases d with
  | same place => exact hwhen _ place _ _
  | noLess place =>
    rw [report]
    split
    · exact hwhen _ place _ _
    · exact List.nil_sublist _

/-- Demands at different places are broken at different places. -/
theorem nodup_map_field (v w : Json) {demands : List Demand} (h : (demands.map place).Nodup) :
    ((demands.flatMap (report v w)).map Violation.field).Nodup := by
  -- induction on the demands: each adds its own place, or nothing
  have hsublist : ((demands.flatMap (report v w)).map Violation.field).Sublist
      (demands.map place) := by
    induction demands with
    | nil => exact .refl _
    | cons d rest ih =>
      rw [List.flatMap_cons, List.map_append, List.map_cons]
      exact (map_field_report_sublist v w d).append (ih (List.nodup_cons.1 h).2)
  exact h.sublist hsublist

/-- A demand looks at nothing but its own place. -/
theorem report_congr {v w w' : Json} {d : Demand}
    (h : w'.at? d.place.steps = w.at? d.place.steps) : d.report v w' = d.report v w := by
  cases d with
  | same place => rw [report, report, show w'.at? place.steps = w.at? place.steps from h]
  | noLess place => rw [report, report, show w'.at? place.steps = w.at? place.steps from h]

/-- A demand is met where both versions have the same. -/
theorem report_eq_nil {v w : Json} {d : Demand} (h : w.at? d.place.steps = v.at? d.place.steps) :
    d.report v w = [] := by
  cases d with
  | same place =>
    rw [report, Report.when_ne_eq_nil]
    exact h.symm
  | noLess place =>
    rw [report, show w.at? place.steps = v.at? place.steps from h]
    split
    · next t s hold hnew =>
      obtain rfl : t = s := by
        rw [hold, Option.some.injEq, Json.string.injEq] at hnew
        exact hnew
      rw [Report.when_eq_nil, Quantity.isLess]
      split
      · next a b ha hb =>
        obtain rfl := Option.some.inj (ha.symm.trans hb)
        exact a.lt_irrefl
      · rfl
    · rfl

end Demand

/-- The places of demands on resources are right below those of the resources. -/
theorem Resources.exists_eq_child {path place : FieldPath}
    (h : place ∈ (demands path).map Demand.place) : ∃ name, place = path.child name := by
  simp only [demands, List.map_cons, List.map_nil, List.mem_cons, List.not_mem_nil, or_false] at h
  rcases h with rfl | rfl <;> exact ⟨_, rfl⟩

namespace Execution

/-- Different nodes stand at different places. -/
theorem nodeField_injective : Function.Injective nodeField := by
  intro i j h
  have hsteps := congrArg FieldPath.steps h
  rw [nodeField, nodeField, FieldPath.steps_index, FieldPath.steps_index] at hsteps
  simpa using hsteps

/-- A demand on nodes is made at a place inside a node. -/
theorem Network.exists_eq_child {shared : Nat} {place : FieldPath}
    (h : place ∈ (nodeDemands shared).map Demand.place) :
    ∃ i name, place = (nodeField i).child name ∨
      place = ((nodeField i).child "resources").child name := by
  rw [nodeDemands, List.map_append, List.map_map, List.map_flatMap, List.mem_append] at h
  rcases h with h | h
  · obtain ⟨i, -, rfl⟩ := List.mem_map.1 h
    exact ⟨i, "name", .inl rfl⟩
  · obtain ⟨i, -, hplace⟩ := List.mem_flatMap.1 h
    obtain ⟨name, rfl⟩ := Resources.exists_eq_child hplace
    exact ⟨i, name, .inr rfl⟩

/-- No two demands on nodes are made at the same place. -/
theorem Network.nodup_nodePlaces (shared : Nat) :
    ((nodeDemands shared).map Demand.place).Nodup := by
  rw [nodeDemands, List.map_append, List.map_map, List.map_flatMap, List.nodup_append]
  refine ⟨?_, ?_, ?_⟩
  · refine List.Nodup.map ?_ List.nodup_range
    intro i j h
    exact nodeField_injective (FieldPath.child_injective h).1
  · -- a place below the resources of a node tells which node it is
    refine List.nodup_flatMap.2 ⟨fun i _ => ?_, ?_⟩
    · simp [Resources.demands, Demand.place, FieldPath.child, FieldPath.step]
    · refine List.Pairwise.imp ?_ List.nodup_range
      intro i j hne place hi hj
      obtain ⟨name, rfl⟩ := Resources.exists_eq_child hi
      obtain ⟨name', h⟩ := Resources.exists_eq_child hj
      have hparent := (FieldPath.child_injective h).1
      exact hne (nodeField_injective (FieldPath.child_injective hparent).1)
  · intro place hname place' hresource heq
    obtain ⟨i, -, rfl⟩ := List.mem_map.1 hname
    obtain ⟨j, -, hplace⟩ := List.mem_flatMap.1 hresource
    obtain ⟨name, rfl⟩ := Resources.exists_eq_child hplace
    -- the one place is two steps into the list of nodes, the other three
    have hparent : nodeField i = (nodeField j).child "resources" :=
      (FieldPath.child_injective heq).1
    have hlength := congrArg (fun p => p.steps.length) hparent
    simp [nodeField] at hlength

end Execution

/-- No two demands are made at the same place. -/
theorem Kind.nodup_places (kind : Kind) (shared : Nat) :
    ((kind.demands shared).map Demand.place).Nodup := by
  by_cases h : kind = .network
  · subst h
    rw [demands, if_pos rfl, List.map_append, List.nodup_append]
    refine ⟨by decide, Execution.Network.nodup_nodePlaces shared, ?_⟩
    intro place hfixed place' hnode heq
    rw [List.map_map] at hfixed
    obtain ⟨name, -, rfl⟩ := List.mem_map.1 hfixed
    obtain ⟨i, name', hplace⟩ := Execution.Network.exists_eq_child hnode
    -- a field of the network is right below the root, and no place in a node is
    have hlength : place'.steps.length = 1 := (congrArg (fun p => p.steps.length) heq).symm
    rcases hplace with rfl | rfl <;> simp [Execution.nodeField] at hlength
  · rw [demands, if_neg h]
    cases kind with
    | network => exact absurd rfl h
    | _ => decide

/-! ## Manifests -/

/-- What a manifest changes against an older one that must not change. -/
def Manifest.breaches (old new : Manifest) : Report :=
  (new.kind.demands (old.spec.shared new.spec)).flatMap
    (Demand.report old.spec.encode new.spec.encode)

/-- A manifest in the place of an older one of its kind is reported for its own problems, and then
    for the demands that it breaks, in the order of the demands. No place is reported twice. What
    stands elsewhere makes no difference: where nothing changed at the places of the demands, none
    is broken, and another version with the same at these places breaks the same demands. -/
theorem Manifest.changeProblems_eq_breaches {old new : Manifest} (h : old.kind = new.kind) :
    old.changeProblems new = new.problems ++ old.breaches new ∧
      ((old.breaches new).map Violation.field).Nodup ∧
      ((∀ d ∈ new.kind.demands (old.spec.shared new.spec),
          new.spec.encode.at? d.place.steps = old.spec.encode.at? d.place.steps) →
        old.breaches new = []) ∧
      ∀ new' : Manifest, new'.kind = new.kind →
        old.spec.shared new'.spec = old.spec.shared new.spec →
        (∀ d ∈ new.kind.demands (old.spec.shared new.spec),
          new'.spec.encode.at? d.place.steps = new.spec.encode.at? d.place.steps) →
        old.breaches new' = old.breaches new := by
  refine ⟨Spec.changeProblems_eq h, ?_, ?_, ?_⟩
  · exact Demand.nodup_map_field _ _ (new.kind.nodup_places _)
  · intro hsame
    exact List.flatMap_eq_nil_iff.2 fun d hd => Demand.report_eq_nil (hsame d hd)
  · intro new' hkind hshared hsame
    rw [breaches, breaches, hkind, hshared]
    exact List.flatMap_congr fun d hd => Demand.report_congr (hsame d hd)

/-- A node with another name and less storage, beside a new one. -/
theorem Manifest.changeProblems_eq_breaches_sample :
    (History.sample ["a"] "200Gi").changeProblems (History.sample ["b", "c"] "100Gi") =
      (History.sample ["b", "c"] "100Gi").problems ++
        [.immutable ((Execution.nodeField 0).child "name") (.text "b"),
          .invalid (((Execution.nodeField 0).child "resources").child "storage") (.text "100Gi")
            "must be greater than or equal to old storage 200Gi"] := by
  have hkind : (History.sample ["a"] "200Gi").kind = (History.sample ["b", "c"] "100Gi").kind := rfl
  have hbreaches : (History.sample ["a"] "200Gi").breaches (History.sample ["b", "c"] "100Gi") =
      [.immutable ((Execution.nodeField 0).child "name") (.text "b"),
        .invalid (((Execution.nodeField 0).child "resources").child "storage") (.text "100Gi")
          "must be greater than or equal to old storage 200Gi"] := by
    decide +kernel
  rw [(changeProblems_eq_breaches hkind).1, hbreaches]

end Nodewright
