import Nodewright.Proofs.Filling.Closure
import Nodewright.Proofs.Filling.Problems
import Nodewright.Proofs.Resources.Growth

/-!
# What stays over the versions of a manifest

A manifest is admitted in the place of an older one, which was admitted before, maybe with other
images. The rules on changes compare only two versions that follow each other, and only once both
are filled. This file says what that amounts to over any number of versions.

## Key results

- `Spec.Continues`: what a later version has in common with an earlier one
- `Spec.continues_of_changeProblems_eq_nil`: one admission keeps it
- `History.latest_continues_first`: so does every run of admissions
-/

namespace Nodewright

/-! ## What must not change -/

/-- A later version of a node has its name, and no less storage of the same class. -/
structure Execution.Node.Continues (n n' : Execution.Node) : Prop where
  name : n'.name = n.name
  resources : n.resources.Grows n'.resources

/-- A later version of a spec has the kind and the identity of the earlier one, and no less storage
    of the same class. The nodes of a network are compared at the given places only. -/
inductive Spec.Continues (shared : Nat → Prop) : Spec → Spec → Prop
  | network {s t : Execution.Network} (join : t.chain.join = s.chain.join)
      (consensus : t.chain.consensus = s.chain.consensus)
      (genesis : t.chain.genesis = s.chain.genesis) (id : t.chain.id = s.chain.id)
      (nodes : ∀ i, shared i → ∃ n n', s.nodes[i]? = some n ∧ t.nodes[i]? = some n' ∧
        n.Continues n') :
      Continues shared (.network s) (.network t)
  | beaconNode {s t : Beacon.Node} (network : t.network = s.network)
      (client : t.client = s.client) (resources : s.resources.Grows t.resources) :
      Continues shared (.beaconNode s) (.beaconNode t)
  | validator {s t : Beacon.Validator} (network : t.network = s.network)
      (client : t.client = s.client) (resources : s.resources.Grows t.resources) :
      Continues shared (.validator s) (.validator t)
  | peer {s t : Storage.Peer} (initProfiles : t.initProfiles = s.initProfiles)
      (resources : s.resources.Grows t.resources) :
      Continues shared (.peer s) (.peer t)
  | clusterPeer {s t : Storage.ClusterPeer} (consensus : t.consensus = s.consensus)
      (id : t.id = s.id) (privatekeySecretName : t.privatekeySecretName = s.privatekeySecretName)
      (clusterSecretName : t.clusterSecretName = s.clusterSecretName)
      (resources : s.resources.Grows t.resources) :
      Continues shared (.clusterPeer s) (.clusterPeer t)
  | chainlinkNode {s t : Oracle.Node} (ethereumChainId : t.ethereumChainId = s.ethereumChainId)
      (linkContractAddress : t.linkContractAddress = s.linkContractAddress)
      (resources : s.resources.Grows t.resources) :
      Continues shared (.chainlinkNode s) (.chainlinkNode t)
  | aptosNode {s t : Aptos.Node} (network : t.network = s.network)
      (resources : s.resources.Grows t.resources) :
      Continues shared (.aptosNode s) (.aptosNode t)

/-- Every storage in a spec has an amount. -/
def Spec.Stored (s : Spec) : Prop :=
  ∀ block ∈ s.resourceBlocks, ∃ a, block.2.storageAmount = some a

namespace Spec

variable {shared : Nat → Prop} {r s t : Spec}

namespace Continues

theorem kind_eq (h : Continues shared s t) : t.kind = s.kind := by cases h <;> rfl

/-- A version continues itself if it has storage, and nodes at the places that are compared. -/
theorem refl (hstored : s.Stored) (hshared : ∀ i, shared i → i < s.nodeNames.length) :
    Continues shared s s := by
  have hgrows {path : FieldPath} {r : Resources} (h : (path, r) ∈ s.resourceBlocks) : r.Grows r :=
    .refl (hstored _ h)
  cases s with
  | network s =>
    -- a place that is compared has a node, and the node has storage
    refine .network rfl rfl rfl rfl fun i hi => ?_
    have hlt : i < s.nodes.length := by simpa [nodeNames] using hshared i hi
    have hnode : (s.nodes[i], i) ∈ s.nodes.zipIdx :=
      List.mk_mem_zipIdx_iff_getElem?.2 (List.getElem?_eq_getElem hlt)
    exact ⟨_, _, List.getElem?_eq_getElem hlt, List.getElem?_eq_getElem hlt, rfl,
      hgrows (List.mem_map_of_mem hnode)⟩
  | beaconNode s => exact .beaconNode rfl rfl (hgrows (List.mem_singleton_self _))
  | validator s => exact .validator rfl rfl (hgrows (List.mem_singleton_self _))
  | peer s => exact .peer rfl (hgrows (List.mem_singleton_self _))
  | clusterPeer s => exact .clusterPeer rfl rfl rfl rfl (hgrows (List.mem_singleton_self _))
  | chainlinkNode s => exact .chainlinkNode rfl rfl (hgrows (List.mem_singleton_self _))
  | aptosNode s => exact .aptosNode rfl (hgrows (List.mem_singleton_self _))

/-- What continues a later version continues the earlier one. -/
theorem trans (h : Continues shared r s) (h' : Continues shared s t) : Continues shared r t := by
  cases h with
  | network hjoin hconsensus hgenesis hid hnodes =>
    cases h' with
    | network hjoin' hconsensus' hgenesis' hid' hnodes' =>
      refine .network (hjoin'.trans hjoin) (hconsensus'.trans hconsensus)
        (hgenesis'.trans hgenesis) (hid'.trans hid) fun i hi => ?_
      -- the node in the middle is the same one for both steps
      obtain ⟨n, m, hn, hm, hnm⟩ := hnodes i hi
      obtain ⟨m', n', hm', hn', hmn⟩ := hnodes' i hi
      obtain rfl : m = m' := Option.some.inj (hm.symm.trans hm')
      exact ⟨n, n', hn, hn', hmn.name.trans hnm.name, hnm.resources.trans hmn.resources⟩
  | beaconNode hnetwork hclient hresources =>
    cases h' with
    | beaconNode hnetwork' hclient' hresources' =>
      exact .beaconNode (hnetwork'.trans hnetwork) (hclient'.trans hclient)
        (hresources.trans hresources')
  | validator hnetwork hclient hresources =>
    cases h' with
    | validator hnetwork' hclient' hresources' =>
      exact .validator (hnetwork'.trans hnetwork) (hclient'.trans hclient)
        (hresources.trans hresources')
  | peer hprofiles hresources =>
    cases h' with
    | peer hprofiles' hresources' =>
      exact .peer (hprofiles'.trans hprofiles) (hresources.trans hresources')
  | clusterPeer hconsensus hid hkey hsecret hresources =>
    cases h' with
    | clusterPeer hconsensus' hid' hkey' hsecret' hresources' =>
      exact .clusterPeer (hconsensus'.trans hconsensus) (hid'.trans hid) (hkey'.trans hkey)
        (hsecret'.trans hsecret) (hresources.trans hresources')
  | chainlinkNode hchain hcontract hresources =>
    cases h' with
    | chainlinkNode hchain' hcontract' hresources' =>
      exact .chainlinkNode (hchain'.trans hchain) (hcontract'.trans hcontract)
        (hresources.trans hresources')
  | aptosNode hnetwork hresources =>
    cases h' with
    | aptosNode hnetwork' hresources' =>
      exact .aptosNode (hnetwork'.trans hnetwork) (hresources.trans hresources')

/-- Fewer places may be compared. -/
theorem mono {fewer : Nat → Prop} (h : Continues shared s t) (hle : ∀ i, fewer i → shared i) :
    Continues fewer s t := by
  cases h with
  | network hjoin hconsensus hgenesis hid hnodes =>
    exact .network hjoin hconsensus hgenesis hid fun i hi => hnodes i (hle i hi)
  | beaconNode hnetwork hclient hresources => exact .beaconNode hnetwork hclient hresources
  | validator hnetwork hclient hresources => exact .validator hnetwork hclient hresources
  | peer hprofiles hresources => exact .peer hprofiles hresources
  | clusterPeer hconsensus hid hkey hsecret hresources =>
    exact .clusterPeer hconsensus hid hkey hsecret hresources
  | chainlinkNode hchain hcontract hresources =>
    exact .chainlinkNode hchain hcontract hresources
  | aptosNode hnetwork hresources => exact .aptosNode hnetwork hresources

end Continues

/-! ## Storage of specs without problems -/

/-- Every storage in a filled spec without problems has an amount. -/
theorem stored_of_problems_eq_nil {images : Image.Overrides}
    (h : (s.fill images).problems = []) : (s.fill images).Stored := by
  rintro ⟨path, r⟩ hblock
  obtain ⟨⟨given, rfl⟩, hproblems⟩ := resources_of_problems_eq_nil h hblock
  exact Resources.exists_storageAmount hproblems

end Spec

/-! ## One admission -/

/-- What the rules on changes say of a network: its chain stays, and so do the names of the nodes
    that stand at the same place before and after. -/
theorem Execution.Network.of_transitions_eq_nil {s t : Network} (h : s.transitions t = []) :
    (t.chain.join = s.chain.join ∧ t.chain.consensus = s.chain.consensus ∧
      t.chain.genesis = s.chain.genesis ∧ t.chain.id = s.chain.id) ∧
      ∀ (i : Nat) (n n' : Node), s.nodes[i]? = some n → t.nodes[i]? = some n' →
        n'.name = n.name ∧
          n.resources.transitions n'.resources ((nodeField i).child "resources") = [] := by
  simp only [transitions, changed, List.append_eq_nil_iff, Report.when_ne_eq_nil] at h
  obtain ⟨⟨⟨⟨⟨hjoin, hconsensus⟩, hgenesis⟩, hid⟩, hnames⟩, hresources⟩ := h
  refine ⟨⟨hjoin.symm, hconsensus.symm, hgenesis.symm, hid.symm⟩, fun i n n' hn hn' => ?_⟩
  -- both nodes stand at the place, so the rules compare them
  have hpair : ((n, n'), i) ∈ pairs s t :=
    List.mk_mem_zipIdx_iff_getElem?.2 (List.getElem?_zip_eq_some.2 ⟨hn, hn'⟩)
  have hname := List.flatMap_eq_nil_iff.1 hnames _ hpair
  exact ⟨(Report.when_ne_eq_nil.1 hname).symm, List.flatMap_eq_nil_iff.1 hresources _ hpair⟩

namespace Spec

variable {shared : Nat → Prop} {s t : Spec}

/-- What it takes that a spec may take the place of an older one. -/
inductive Accepts : Spec → Spec → Prop
  | network {s t : Execution.Network} (h : s.transitions t = []) :
      Accepts (.network s) (.network t)
  | beaconNode {s t : Beacon.Node} (h : s.transitions t = []) :
      Accepts (.beaconNode s) (.beaconNode t)
  | validator {s t : Beacon.Validator} (h : s.transitions t = []) :
      Accepts (.validator s) (.validator t)
  | peer {s t : Storage.Peer} (h : s.transitions t = []) : Accepts (.peer s) (.peer t)
  | clusterPeer {s t : Storage.ClusterPeer} (h : s.transitions t = []) :
      Accepts (.clusterPeer s) (.clusterPeer t)
  | chainlinkNode {s t : Oracle.Node} (h : s.transitions t = []) :
      Accepts (.chainlinkNode s) (.chainlinkNode t)
  | aptosNode {s t : Aptos.Node} (h : s.transitions t = []) :
      Accepts (.aptosNode s) (.aptosNode t)

/-- A spec takes the place of an older one of the same kind if it has no problem by itself, and
    nothing changed that must not change. -/
theorem changeProblems_eq_nil (h : s.changeProblems t = []) : t.problems = [] ∧ s.Accepts t := by
  -- a spec of another kind is always reported, so the seven pairs of one kind are left
  cases s <;> cases t <;> simp only [changeProblems, List.append_eq_nil_iff, reduceCtorEq] at h
  · exact ⟨h.1, .network h.2⟩
  · exact ⟨h.1, .beaconNode h.2⟩
  · exact ⟨h.1, .validator h.2⟩
  · exact ⟨h.1, .peer h.2⟩
  · exact ⟨h.1, .clusterPeer h.2⟩
  · exact ⟨h.1, .chainlinkNode h.2⟩
  · exact ⟨h.1, .aptosNode h.2⟩

/-- A spec that takes the place of an older one continues it, as long as both have storage. -/
theorem Accepts.continues (h : s.Accepts t) (hs : s.Stored) (ht : t.Stored)
    (hshared : ∀ i, shared i → i < s.nodeNames.length ∧ i < t.nodeNames.length) :
    Continues shared s t := by
  -- the rule on storage compares amounts, so it says something only if both are there
  have hgrows {path place place' : FieldPath} {r r' : Resources}
      (hr : (place, r) ∈ s.resourceBlocks) (hr' : (place', r') ∈ t.resourceBlocks)
      (h : r.transitions r' path = []) : r.Grows r' :=
    Resources.grows_of_transitions_eq_nil (hs _ hr) (ht _ hr') h
  cases h with
  | network h =>
    obtain ⟨⟨hjoin, hconsensus, hgenesis, hid⟩, hnodes⟩ :=
      Execution.Network.of_transitions_eq_nil h
    refine .network hjoin hconsensus hgenesis hid fun i hi => ?_
    obtain ⟨hlt, hlt'⟩ := hshared i hi
    rw [nodeNames, List.length_map] at hlt hlt'
    have hold := List.getElem?_eq_getElem hlt
    have hnew := List.getElem?_eq_getElem hlt'
    obtain ⟨hname, hresources⟩ := hnodes i _ _ hold hnew
    exact ⟨_, _, hold, hnew, hname,
      hgrows (List.mem_map_of_mem (List.mk_mem_zipIdx_iff_getElem?.2 hold))
        (List.mem_map_of_mem (List.mk_mem_zipIdx_iff_getElem?.2 hnew)) hresources⟩
  | beaconNode h =>
    simp only [Beacon.Node.transitions, Beacon.identityTransitions, List.append_eq_nil_iff,
      Report.when_ne_eq_nil] at h
    obtain ⟨⟨hnetwork, hclient⟩, hresources⟩ := h
    exact .beaconNode hnetwork.symm hclient.symm
      (hgrows (List.mem_singleton_self _) (List.mem_singleton_self _) hresources)
  | validator h =>
    simp only [Beacon.Validator.transitions, Beacon.identityTransitions, List.append_eq_nil_iff,
      Report.when_ne_eq_nil] at h
    obtain ⟨⟨hnetwork, hclient⟩, hresources⟩ := h
    exact .validator hnetwork.symm hclient.symm
      (hgrows (List.mem_singleton_self _) (List.mem_singleton_self _) hresources)
  | peer h =>
    simp only [Storage.Peer.transitions, List.append_eq_nil_iff, Report.when_ne_eq_nil] at h
    obtain ⟨hprofiles, hresources⟩ := h
    exact .peer hprofiles.symm
      (hgrows (List.mem_singleton_self _) (List.mem_singleton_self _) hresources)
  | clusterPeer h =>
    simp only [Storage.ClusterPeer.transitions, List.append_eq_nil_iff,
      Report.when_ne_eq_nil] at h
    obtain ⟨⟨⟨⟨hconsensus, hid⟩, hkey⟩, hsecret⟩, hresources⟩ := h
    exact .clusterPeer hconsensus.symm hid.symm hkey.symm hsecret.symm
      (hgrows (List.mem_singleton_self _) (List.mem_singleton_self _) hresources)
  | chainlinkNode h =>
    simp only [Oracle.Node.transitions, List.append_eq_nil_iff, Report.when_ne_eq_nil] at h
    obtain ⟨⟨hchain, hcontract⟩, hresources⟩ := h
    exact .chainlinkNode hchain.symm hcontract.symm
      (hgrows (List.mem_singleton_self _) (List.mem_singleton_self _) hresources)
  | aptosNode h =>
    simp only [Aptos.Node.transitions, List.append_eq_nil_iff, Report.when_ne_eq_nil] at h
    obtain ⟨hnetwork, hresources⟩ := h
    exact .aptosNode hnetwork.symm
      (hgrows (List.mem_singleton_self _) (List.mem_singleton_self _) hresources)

end Spec

/-! ## Runs of admissions -/

namespace Manifest

/-- A manifest is admitted as it is filled, and only if nothing is wrong with that. -/
theorem admission_eq_ok_iff {images : Image.Overrides} {old : Option Manifest} {m : Manifest}
    {a : Admitted} :
    m.admission images old = .ok a ↔
      (m.fill images).problemsAfter (old.map (fill images)) = [] ∧
        a = ⟨m.fill images, (m.fill images).workloads⟩ := by
  rw [admission]
  split
  · next h => simp [h, eq_comm]
  · next h => exact iff_of_false nofun fun h' => h h'.1

/-- Whatever the older manifest, an admitted one has no problem by itself. -/
theorem problems_eq_nil_of_admission {images : Image.Overrides} {old : Option Manifest}
    {m : Manifest} {a : Admitted} (h : m.admission images old = .ok a) :
    a.manifest = m.fill images ∧ (m.fill images).problems = [] := by
  obtain ⟨hproblems, rfl⟩ := admission_eq_ok_iff.1 h
  refine ⟨rfl, ?_⟩
  cases old with
  | none => exact hproblems
  | some old => exact (Spec.changeProblems_eq_nil hproblems).1

end Manifest

/-- The versions of a manifest that were admitted in the place of each other, the latest one first.
    Images may have changed in between. -/
inductive History : List Manifest → Prop
  | start {images : Image.Overrides} {m : Manifest} {a : Admitted}
      (h : m.admission images none = .ok a) : History [a.manifest]
  | next {images : Image.Overrides} {m old : Manifest} {earlier : List Manifest} {a : Admitted}
      (before : History (old :: earlier)) (h : m.admission images (some old) = .ok a) :
      History (a.manifest :: old :: earlier)

namespace History

variable {versions : List Manifest} {first latest : Manifest}

/-- A place at which every version has a node. -/
def Shared (versions : List Manifest) (i : Nat) : Prop :=
  ∀ v ∈ versions, i < v.spec.nodeNames.length

/-- Every version is filled, and its storage has an amount. -/
theorem filled_and_stored (h : History versions) :
    ∀ v ∈ versions, (∀ images, v.fill images = v) ∧ v.spec.Stored := by
  have hadmitted {images : Image.Overrides} {old : Option Manifest} {m : Manifest} {a : Admitted}
      (h : m.admission images old = .ok a) :
      (∀ images', a.manifest.fill images' = a.manifest) ∧ a.manifest.spec.Stored := by
    obtain ⟨hfill, hproblems⟩ := Manifest.problems_eq_nil_of_admission h
    rw [hfill]
    exact ⟨fun images' => Manifest.fill_fill images images' m,
      Spec.stored_of_problems_eq_nil hproblems⟩
  -- filling and rules concern one version at a time, so nothing is carried along the run
  induction h with
  | start h =>
    intro v hv
    obtain rfl := List.mem_singleton.1 hv
    exact hadmitted h
  | next before h ih =>
    intro v hv
    rcases List.mem_cons.1 hv with rfl | hv
    · exact hadmitted h
    · exact ih v hv

/-- The latest version has the kind and the identity of the first one, and no less storage of the
    same class, however many versions are in between. The nodes of a network are compared at the
    places at which every version has one. -/
theorem latest_continues_first (h : History versions) (hfirst : versions.getLast? = some first)
    (hlatest : versions.head? = some latest) :
    latest.kind = first.kind ∧ Spec.Continues (Shared versions) first.spec latest.spec := by
  -- the first version stays the same along the run, and every step continues the latest one
  have hrun : Spec.Continues (Shared versions) first.spec latest.spec := by
    induction h generalizing latest with
    | start h =>
      obtain rfl := Option.some.inj hfirst
      obtain rfl := Option.some.inj hlatest
      have hstored := ((History.start h).filled_and_stored _ (List.mem_singleton_self _)).2
      exact .refl hstored fun i hi => hi _ (List.mem_singleton_self _)
    | @next images m old earlier a before h ih =>
      obtain rfl := Option.some.inj hlatest
      have hold := before.filled_and_stored old List.mem_cons_self
      have hnew := (before.next h).filled_and_stored a.manifest List.mem_cons_self
      -- the older version is filled already, so it is compared as it is
      obtain ⟨hproblems, ha⟩ := Manifest.admission_eq_ok_iff.1 h
      rw [Option.map_some, hold.1] at hproblems
      have haccepts : old.spec.Accepts a.manifest.spec := by
        rw [ha]
        exact (Spec.changeProblems_eq_nil hproblems).2
      have hstep : Spec.Continues (Shared (a.manifest :: old :: earlier)) old.spec
          a.manifest.spec :=
        haccepts.continues hold.2 hnew.2 fun i hi =>
          ⟨hi old (List.mem_cons_of_mem _ List.mem_cons_self), hi a.manifest List.mem_cons_self⟩
      -- what the run before compares at more places holds at those that are left
      rw [List.getLast?_cons_cons] at hfirst
      have hbefore := ih hfirst rfl
      exact (hbefore.mono fun i hi v hv => hi v (List.mem_cons_of_mem _ hv)).trans hstep
  exact ⟨hrun.kind_eq, hrun⟩

/-- A network on the main network whose nodes have the given names and so much storage. -/
def sample (names : List String) (storage : String) : Manifest where
  name := "net"
  spec := .network {
    chain := ⟨none, some .mainnet, none, none⟩
    nodes := names.map fun name =>
      { name, client := .geth, image := none, bootnode := true, nodekeySecretName := some "key"
        bootnodes := [], miner := false, coinbase := none, importedAccount := none
        syncMode := none, p2pPort := none, rpc := ⟨.off, []⟩, ws := ⟨.off, []⟩, graphql := .off
        hosts := [], corsDomains := [], logging := none
        resources := ⟨none, none, none, none, some storage, none⟩ } }

/-- A network with one node, and then with a second one, more storage and another image. -/
theorem latest_continues_first_sample :
    Spec.Continues
      (Shared [(sample ["a", "b"] "200Gi").fill (Image.Overrides.none.set "GETH_IMAGE" "geth"),
        (sample ["a"] "100Gi").fill .none])
      ((sample ["a"] "100Gi").fill .none).spec
      ((sample ["a", "b"] "200Gi").fill (Image.Overrides.none.set "GETH_IMAGE" "geth")).spec := by
  have hsmall : (sample ["a"] "100Gi").admission .none none = .ok _ :=
    Manifest.admission_eq_ok_iff.2 ⟨by decide +kernel, rfl⟩
  have hlarge : (sample ["a", "b"] "200Gi").admission
      (Image.Overrides.none.set "GETH_IMAGE" "geth")
      (some ((sample ["a"] "100Gi").fill .none)) = .ok _ :=
    Manifest.admission_eq_ok_iff.2 ⟨by decide +kernel, rfl⟩
  exact (latest_continues_first ((History.start hsmall).next hlarge) rfl rfl).2

end History

end Nodewright
