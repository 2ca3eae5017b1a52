import Nodewright.Proofs.Filling.Settings

/-!
# Filling is a closure

Filling puts in what is missing and leaves the rest alone, so it does nothing to a manifest that is
filled already. That holds for other images too, since the image of a filled node is given.

## Key results

- `Spec.fill_fill`: a filled spec is left alone, whatever the images
- `Spec.forall₂_endpoints_fill`: an endpoint that is not offered stays what it is
- `Manifest.fill_only`: what filling does to a manifest, and what it does not
-/

namespace Nodewright

variable (images images' : Image.Overrides)

/-! ## Filling twice -/

namespace Beacon

/-- Origins that have been put in are left alone. -/
theorem Node.originsOr_fill (n : Node) (origins : List String) :
    (n.fill images).originsOr (n.originsOr origins) = n.originsOr origins := by
  have hserves : (n.fill images).servesApi = n.servesApi := by simp [servesApi, fill]
  rw [originsOr, hserves]
  exact ite_ite_usual (fun origins : List String => n.servesApi && origins.isEmpty) ["*"] origins

/-- A filled beacon node is left alone. -/
theorem Node.fill_fill (n : Node) : (n.fill images).fill images' = n.fill images := by
  -- interfaces and origins are filled under a condition, so a second time is looked at one by one;
  -- all other settings are given by now
  have hrest : (n.fill images).rest.fill 5051 = (n.fill images).rest := Endpoint.fill_fill ..
  have hrpc : (n.fill images).rpc.fill 4000 = (n.fill images).rpc := Endpoint.fill_fill ..
  have hgrpc : (n.fill images).grpc.fill 3500 = (n.fill images).grpc := Endpoint.fill_fill ..
  have hhosts : (n.fill images).originsOr (n.fill images).hosts = (n.fill images).hosts :=
    originsOr_fill ..
  have hcors :
      (n.fill images).originsOr (n.fill images).corsDomains = (n.fill images).corsDomains :=
    originsOr_fill ..
  rw [fill, hrest, hrpc, hgrpc, hhosts, hcors]
  rfl

theorem Validator.fill_fill (v : Validator) : (v.fill images).fill images' = v.fill images := rfl

end Beacon

namespace Storage

theorem Peer.fill_fill (p : Peer) : (p.fill images).fill images' = p.fill images := by
  -- a list that was filled in is not empty any more
  have hprofiles : (if (p.fill images).initProfiles.isEmpty then [.defaultDatastore]
      else (p.fill images).initProfiles) = (p.fill images).initProfiles :=
    ite_ite_usual List.isEmpty [Profile.defaultDatastore] p.initProfiles
  rw [fill, hprofiles]
  rfl

theorem ClusterPeer.fill_fill (p : ClusterPeer) :
    (p.fill images).fill images' = p.fill images := by
  -- the condition on the consensus rule stays what it was
  have htrusted : (if (p.fill images).consensus = .crdt && (p.fill images).trustedPeers.isEmpty
      then ["*"] else (p.fill images).trustedPeers) = (p.fill images).trustedPeers :=
    ite_ite_usual (fun trusted : List String => p.consensus = .crdt && trusted.isEmpty) ["*"]
      p.trustedPeers
  rw [fill, htrusted]
  rfl

end Storage

theorem Oracle.Node.fill_fill (n : Oracle.Node) :
    (n.fill images).fill images' = n.fill images := by
  have hcors : (if (n.fill images).corsDomains.isEmpty then ["*"]
      else (n.fill images).corsDomains) = (n.fill images).corsDomains :=
    ite_ite_usual List.isEmpty ["*"] n.corsDomains
  rw [fill, hcors]
  rfl

theorem Aptos.Node.fill_fill (n : Aptos.Node) :
    (n.fill images).fill images' = n.fill images := by
  have hapi : (n.fill images).api.fill 8080 = (n.fill images).api := Endpoint.fill_fill ..
  rw [fill, hapi]
  rfl

/-- A filled spec is left alone, whatever the images. -/
@[simp] theorem Spec.fill_fill (s : Spec) : (s.fill images).fill images' = s.fill images := by
  cases s with
  | network s => exact congrArg network (s.fill_fill images images')
  | beaconNode s => exact congrArg beaconNode (s.fill_fill images images')
  | validator s => exact congrArg validator (s.fill_fill images images')
  | peer s => exact congrArg peer (s.fill_fill images images')
  | clusterPeer s => exact congrArg clusterPeer (s.fill_fill images images')
  | chainlinkNode s => exact congrArg chainlinkNode (s.fill_fill images images')
  | aptosNode s => exact congrArg aptosNode (s.fill_fill images images')

/-- A filled manifest is left alone, whatever the images. -/
@[simp] theorem Manifest.fill_fill (m : Manifest) :
    (m.fill images).fill images' = m.fill images := by
  rw [fill, fill, Spec.fill_fill]

/-! ## Endpoints that are not offered -/

/-- An interface keeps its settings if it is not offered. -/
theorem Execution.CallEndpoint.fill_of_disabled {e : CallEndpoint} {port : UInt16}
    (h : e.endpoint.enabled = false) : e.fill port = e := by
  rw [fill, Endpoint.fill_of_disabled h, h]
  rfl

/-- The interfaces in a spec that a node may offer or not, with the groups of calls that they
    answer where such groups are named. -/
def Spec.endpoints : Spec → List Execution.CallEndpoint
  | network s => s.nodes.flatMap fun n => [n.rpc, n.ws, ⟨n.graphql, []⟩]
  | beaconNode s => [⟨s.rest, []⟩, ⟨s.rpc, []⟩, ⟨s.grpc, []⟩]
  | aptosNode s => [⟨s.api, []⟩]
  | _ => []

/-- Two states of an interface that are the same if it is not offered in the first one. -/
def Execution.CallEndpoint.SameIfOff (e f : CallEndpoint) : Prop :=
  e.endpoint.enabled = false → f = e

/-- Filling a spec changes no interface that is not offered. -/
theorem Spec.forall₂_endpoints_fill (s : Spec) :
    List.Forall₂ Execution.CallEndpoint.SameIfOff s.endpoints (s.fill images).endpoints := by
  -- an interface without groups of calls, as all but those of execution nodes are
  have hsingle (e : Endpoint) (port : UInt16) :
      Execution.CallEndpoint.SameIfOff ⟨e, []⟩ ⟨e.fill port, []⟩ := fun h => by
    rw [Endpoint.fill_of_disabled h]
  cases s with
  | network s =>
    show List.Forall₂ _ (s.nodes.flatMap _) ((s.nodes.map _).flatMap _)
    -- three interfaces for each node
    induction s.nodes with
    | nil => exact .nil
    | cons n rest ih =>
      exact .cons Execution.CallEndpoint.fill_of_disabled
        (.cons Execution.CallEndpoint.fill_of_disabled (.cons (hsingle _ _) ih))
  | beaconNode s => exact .cons (hsingle _ _) (.cons (hsingle _ _) (.cons (hsingle _ _) .nil))
  | aptosNode s => exact .cons (hsingle _ _) .nil
  | _ => exact .nil

/-! ## Nodes and accounts -/

/-- The names of the nodes of a spec, in their order. -/
def Spec.nodeNames : Spec → List String
  | network s => s.nodes.map Execution.Node.name
  | _ => []

/-- The accounts of the first block of a spec, in their order. -/
def Spec.accounts : Spec → List Execution.Account
  | network s => (s.chain.genesis.map Execution.Genesis.accounts).getD []
  | _ => []

/-- Filling keeps the nodes and their names. -/
theorem Spec.nodeNames_fill (s : Spec) : (s.fill images).nodeNames = s.nodeNames := by
  cases s with
  | network s =>
    simp [nodeNames, fill, Execution.Network.fill, Function.comp_def, Execution.Node.fill]
  | _ => rfl

/-- Filling keeps the accounts of the first block. -/
theorem Spec.accounts_fill (s : Spec) : (s.fill images).accounts = s.accounts := by
  cases s with
  | network s =>
    cases h : s.chain.genesis <;>
      simp [accounts, fill, Execution.Network.fill, Execution.Chain.fill, h]
  | _ => rfl

/-- Filling puts in what is missing, and nothing else. To fill a filled manifest does nothing,
    whatever the images; every setting stays where it stands; nodes and accounts stay the same, in
    their order; and endpoints that are not offered are left alone. -/
theorem Manifest.fill_only (m : Manifest) :
    (m.fill images).fill images' = m.fill images ∧
      (∀ path v, m.toJson.at? path = some v → v.isSetting = true →
        (m.fill images).toJson.at? path = some v) ∧
      (m.fill images).spec.nodeNames = m.spec.nodeNames ∧
      (m.fill images).spec.accounts = m.spec.accounts ∧
      List.Forall₂ (fun e f => e.endpoint.enabled = false → f = e) m.spec.endpoints
        (m.fill images).spec.endpoints :=
  ⟨fill_fill images images' m, keeps_fill images m, Spec.nodeNames_fill images m.spec,
    Spec.accounts_fill images m.spec, Spec.forall₂_endpoints_fill images m.spec⟩

end Nodewright
