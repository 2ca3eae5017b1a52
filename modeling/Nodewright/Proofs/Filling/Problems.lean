import Nodewright.Admission
import Nodewright.Proofs.Execution.Filling

/-!
# Filling hides no problem

For every kind, the report on a filled spec has all that the report on the spec itself has, in the
same order. Beyond that it has only limits that were given without their requests, and are below
the requests of the profile of the kind.

## Key results

- `Beacon.Node.problems_fill` and its like for the other kinds
- `Spec.resources_of_problems_eq_nil`: what a spec without problems asks for has none either
- `Manifest.problems_extend`: filling hides no problem of a manifest
-/

namespace Nodewright

open FieldPath (field)

/-- The profile of every kind asks for quantities. -/
theorem Kind.profile_readable (kind : Kind) : kind.profile.Readable := by
  cases kind <;> constructor <;> decide

/-- The kinds other than networks are checked for their settings, their level of logging and their
    resources. If filling makes no difference to the settings, only limits may come in. -/
private theorem extends_of_settings {α : Type} [DecidableEq α] [Named α] {registry : Registry α}
    {client : α} {settings settings' : Report} {level : Option Verbosity} {p : ResourceProfile}
    {r : Resources} (hp : p.Readable) (hsettings : settings' = settings)
    (hlevel : registry.supports client (.logging .info) = true) :
    Report.Extends (Resources.BelowUsual p r (field "resources"))
      (settings ++ registry.loggingRule client level (field "logging") ++
        r.problems (field "resources"))
      (settings' ++ registry.loggingRule client (some (level.getD .info)) (field "logging") ++
        (r.fill p).problems (field "resources")) := by
  rw [hsettings, Registry.loggingRule_getD hlevel]
  exact (Report.Extends.refl _).append (Resources.problems_fill hp r _)

/-! ## Nodes and validators of the consensus chain -/

/-- Filling a beacon node adds nothing to its report but limits below the usual requests. -/
theorem Beacon.Node.problems_fill (images : Image.Overrides) (n : Beacon.Node) :
    Report.Extends (Resources.BelowUsual profile n.resources (field "resources")) n.problems
      (n.fill images).problems := by
  -- a rule on an interface asks whether it is offered
  have hendpoint (name : String) (e : Endpoint) (port : UInt16) (feature : Feature) :
      endpointSupport (n.fill images) name (e.fill port) feature =
        endpointSupport n name e feature := by
    simp only [endpointSupport, Endpoint.enabled_fill]
    rfl
  refine extends_of_settings (Kind.profile_readable .beaconNode) ?_ ?_
  · -- no interface is opened or closed
    rw [← hendpoint "rest" n.rest 5051, ← hendpoint "rpc" n.rpc 4000,
      ← hendpoint "grpc" n.grpc 3500]
    rfl
  · cases n.client <;> decide

/-- Nor does filling a validator, none of whose rules looks at a setting that is filled in. -/
theorem Beacon.Validator.problems_fill (images : Image.Overrides) (v : Beacon.Validator) :
    Report.Extends (Resources.BelowUsual profile v.resources (field "resources")) v.problems
      (v.fill images).problems := by
  refine extends_of_settings (Kind.profile_readable .validator) rfl ?_
  cases v.client <;> decide

/-! ## Peers -/

/-- Nor does filling a peer. -/
theorem Storage.Peer.problems_fill (images : Image.Overrides) (p : Storage.Peer) :
    Report.Extends (Resources.BelowUsual profile p.resources (field "resources")) p.problems
      (p.fill images).problems := by
  -- a peer is checked for nothing but its level of logging and its resources
  have hnone : ([] : Report) = [] := rfl
  refine extends_of_settings (Kind.profile_readable .peer) hnone ?_
  cases p.client; decide

/-- Trust in every peer is put in only where trust is allowed. -/
theorem Storage.ClusterPeer.trustedPeersRule_fill (images : Image.Overrides)
    (p : Storage.ClusterPeer) : (p.fill images).trustedPeersRule = p.trustedPeersRule := by
  by_cases hcrdt : p.consensus = .crdt <;> simp [trustedPeersRule, fill, hcrdt]

/-- Nor does filling a cluster peer, although its trusted peers have a rule. -/
theorem Storage.ClusterPeer.problems_fill (images : Image.Overrides) (p : Storage.ClusterPeer) :
    Report.Extends (Resources.BelowUsual profile p.resources (field "resources")) p.problems
      (p.fill images).problems := by
  refine extends_of_settings (Kind.profile_readable .clusterPeer) ?_ ?_
  · rw [trustedPeersRule_fill]
    rfl
  · cases p.client; decide

/-! ## Oracle nodes and nodes of the Aptos chain -/

/-- Nor does filling an oracle node. -/
theorem Oracle.Node.problems_fill (images : Image.Overrides) (n : Oracle.Node) :
    Report.Extends (Resources.BelowUsual profile n.resources (field "resources")) n.problems
      (n.fill images).problems := by
  refine extends_of_settings (Kind.profile_readable .chainlinkNode) rfl ?_
  cases n.client; decide

/-- Nor does filling an Aptos node. -/
theorem Aptos.Node.problems_fill (images : Image.Overrides) (n : Aptos.Node) :
    Report.Extends (Resources.BelowUsual profile n.resources (field "resources")) n.problems
      (n.fill images).problems := by
  refine extends_of_settings (Kind.profile_readable .aptosNode) rfl ?_
  cases n.client; decide

/-! ## Every kind -/

/-- The resources in a spec, with the places where they stand. -/
def Spec.resourceBlocks : Spec → List (FieldPath × Resources)
  | network s => s.nodes.zipIdx.map fun (node, i) =>
    ((Execution.nodeField i).child "resources", node.resources)
  | beaconNode s => [(field "resources", s.resources)]
  | validator s => [(field "resources", s.resources)]
  | peer s => [(field "resources", s.resources)]
  | clusterPeer s => [(field "resources", s.resources)]
  | chainlinkNode s => [(field "resources", s.resources)]
  | aptosNode s => [(field "resources", s.resources)]

/-- The resources in a filled spec without problems are filled from the profile of the kind, and
    have no problem by themselves. -/
theorem Spec.resources_of_problems_eq_nil {images : Image.Overrides} {s : Spec}
    (h : (s.fill images).problems = []) {path : FieldPath} {r : Resources}
    (hr : (path, r) ∈ (s.fill images).resourceBlocks) :
    (∃ given : Resources, r = given.fill s.kind.profile) ∧ r.problems path = [] := by
  -- a report on one node ends with that on its resources
  have hlast {front : Report} {given : Resources} {p : ResourceProfile}
      (h : front ++ (given.fill p).problems (field "resources") = [])
      (hr : (path, r) ∈ [(field "resources", given.fill p)]) :
      (∃ given : Resources, r = given.fill p) ∧ r.problems path = [] := by
    obtain ⟨rfl, rfl⟩ := Prod.mk.inj (List.mem_singleton.1 hr)
    exact ⟨⟨given, rfl⟩, (List.append_eq_nil_iff.1 h).2⟩
  cases s with
  | network s =>
    -- the report on a network is empty, and so is that on each of its nodes
    obtain ⟨⟨node, i⟩, hnode, heq⟩ := List.mem_map.1 hr
    obtain ⟨rfl, rfl⟩ := Prod.mk.inj heq
    obtain ⟨given, -, rfl⟩ := List.mem_map.1 (List.fst_mem_of_mem_zipIdx hnode)
    have hnodes := List.flatMap_eq_nil_iff.1 (List.append_eq_nil_iff.1 h).2 _ hnode
    dsimp only at hnodes
    rw [Execution.Node.problems_eq_append] at hnodes
    exact ⟨⟨given.resources, rfl⟩, (List.append_eq_nil_iff.1 hnodes).2⟩
  | beaconNode s => exact hlast h hr
  | validator s => exact hlast h hr
  | peer s => exact hlast h hr
  | clusterPeer s => exact hlast h hr
  | chainlinkNode s => exact hlast h hr
  | aptosNode s => exact hlast h hr

/-- A limit in a spec that was given without its request, and is below the one of the profile. -/
def Spec.LimitBelowUsual (s : Spec) (v : Violation) : Prop :=
  ∃ block ∈ s.resourceBlocks, Resources.BelowUsual s.kind.profile block.2 block.1 v

/-- Filling a spec adds nothing to its report but limits that were given without their requests. -/
theorem Spec.problems_fill (images : Image.Overrides) (s : Spec) :
    Report.Extends s.LimitBelowUsual s.problems (s.fill images).problems := by
  -- all kinds but networks have one block of resources
  have hsingle {p : ResourceProfile} {r : Resources} {path : FieldPath} (v : Violation)
      (hv : Resources.BelowUsual p r path v) :
      ∃ block ∈ [(path, r)], Resources.BelowUsual p block.2 block.1 v :=
    ⟨(path, r), List.mem_singleton_self _, hv⟩
  cases s with
  | network s =>
    refine (Execution.Network.problems_fill images s).mono ?_
    rintro v ⟨node, hnode, hv⟩
    exact ⟨_, List.mem_map_of_mem hnode, hv⟩
  | beaconNode s => exact (Beacon.Node.problems_fill images s).mono hsingle
  | validator s => exact (Beacon.Validator.problems_fill images s).mono hsingle
  | peer s => exact (Storage.Peer.problems_fill images s).mono hsingle
  | clusterPeer s => exact (Storage.ClusterPeer.problems_fill images s).mono hsingle
  | chainlinkNode s => exact (Oracle.Node.problems_fill images s).mono hsingle
  | aptosNode s => exact (Aptos.Node.problems_fill images s).mono hsingle

/-- The report on a filled manifest has every entry of the report on the manifest itself, in the
    same order. Each of its other entries is about a limit that the manifest gives without the
    request, and that is below the request of the profile. -/
theorem Manifest.problems_extend (images : Image.Overrides) (m : Manifest) :
    m.problems.Sublist (m.fill images).problems ∧
      ∀ v ∈ (m.fill images).problems, v ∉ m.problems →
        ∃ block ∈ m.spec.resourceBlocks,
          Resources.BelowUsual m.kind.profile block.2 block.1 v :=
  ⟨(Spec.problems_fill images m.spec).sublist, (Spec.problems_fill images m.spec).other⟩

end Nodewright
