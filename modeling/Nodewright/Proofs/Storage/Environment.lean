import Nodewright.Proofs.Admission.History
import Nodewright.Proofs.Arguments.Items
import Nodewright.Proofs.Workloads.Variables

/-!
# The environments of peers

A peer and a cluster peer are told through their environments what their specs say. For each of them
the variables stand in a table here, each with the setting that it comes from, and the environment
of an admitted one is shown to say what the table does.

The identity of a cluster peer gets into the environment together with its key only. That neither is
lost is the work of two rules, by which each of them demands the other.

## Key results

- `Peer.envTable`, `ClusterPeer.envTable`: the tables
- `ClusterPeer.isSome_eq_of_problems_eq_nil`: what the two rules amount to
- `Peer.tells_of_admission`, `ClusterPeer.toldBy_of_admission`: the environments of admitted peers
-/

namespace Nodewright.Storage

open Arguments

/-! ## Peers -/

namespace Peer

/-- What the variables of a peer say. -/
def envTable (p : Peer) : Environment.Table where
  rows := [
    ("IPFS_PATH", some (.literal (Home.data home))),
    ("IPFS_API_HOST", p.apiHost.map .literal),
    ("IPFS_API_PORT", p.apiPort.map fun n => .literal (port n)),
    ("IPFS_GATEWAY_HOST", p.gatewayHost.map .literal),
    ("IPFS_GATEWAY_PORT", p.gatewayPort.map fun n => .literal (port n)),
    ("IPFS_INIT_PROFILES", (joined (p.initProfiles.map Profile.name)).map .literal),
    ("IPFS_PROFILES", (joined (p.profiles.map Profile.name)).map .literal),
    ("IPFS_SWARM_KEY", p.swarmKeySecretName.map fun name => .secret name "secret"),
    ("GOLOG_LOG_LEVEL", p.logging.map fun level => .literal level.name)]
  distinct := by simp

theorem profileValue_eq (profiles : List Profile) :
    profileValue profiles = (joined (profiles.map Profile.name)).map .literal := by
  cases profiles <;> rfl

/-- The environment of a peer is made from its table. -/
theorem env_eq (p : Peer) : env p = .ofList p.envTable.settings := by
  simp [env, envTable, Environment.Table.settings, profileValue_eq]

/-- The environment of an admitted peer says what the table of the peer does, with the usual
    settings. -/
theorem tells_of_admission {images : Image.Overrides} {old : Option Manifest} {name : String}
    {p : Peer} {a : Admitted} (h : Manifest.admission images old ⟨name, .peer p⟩ = .ok a) :
    ∃ w, a.workloads = [w] ∧ (p.fill images).envTable.Tells w.launch.env := by
  obtain ⟨-, rfl⟩ := Manifest.admission_eq_ok_iff.1 h
  have henv : ((p.fill images).workload name).launch.env =
      .ofList (p.fill images).envTable.settings := by
    rw [workload, Workload.ofLaunch, launch, env_eq]
  exact ⟨(p.fill images).workload name, rfl, henv ▸ Environment.Table.tells_ofList _⟩

end Peer

/-! ## Cluster peers -/

namespace ClusterPeer

variable {p : ClusterPeer}

/-- What the variables of a cluster peer of the given name say. -/
def envTable (name : String) (p : ClusterPeer) : Environment.Table where
  rows := [
    ("IPFS_CLUSTER_PATH", some (.literal (Home.data home))),
    ("CLUSTER_PEERNAME", some (.literal name)),
    ("IPFS_CLUSTER_CONSENSUS", some (.literal p.consensus.name)),
    ("IPFS_CLUSTER_PEER_ENDPOINT", some (.literal p.peerEndpoint)),
    ("CLUSTER_SECRET", some (.secret p.clusterSecretName "secret")),
    ("IPFS_CLUSTER_TRUSTED_PEERS", some (.literal (Text.joinWith "," p.trustedPeers))),
    ("CLUSTER_ID", p.id.map .literal),
    ("CLUSTER_PRIVATEKEY", p.privatekeySecretName.map fun secret => .secret secret "key")]
  distinct := by simp

/-- A cluster peer without problems has an identity and a key for it, or neither. -/
theorem isSome_eq_of_problems_eq_nil (h : p.problems = []) :
    p.id.isSome = p.privatekeySecretName.isSome := by
  simp only [problems, List.append_eq_nil_iff] at h
  obtain ⟨⟨⟨⟨⟨⟨-, hid⟩, hkey⟩, -⟩, -⟩, -⟩, -⟩ := h
  rw [idRequiresKey, Report.when_eq_nil] at hid
  rw [keyRequiresId, Report.when_eq_nil] at hkey
  exact Environment.isSome_eq_of_demands hid hkey

/-- Where an identity comes with its key, the environment of a cluster peer is made from its
    table. -/
theorem env_eq (name : String) (hpaired : p.id.isSome = p.privatekeySecretName.isSome) :
    env name p = .ofList (p.envTable name).settings := by
  cases hid : p.id <;> cases hkey : p.privatekeySecretName <;>
    simp_all [env, identity, envTable, Environment.Table.settings]

/-- What the environment of a cluster peer says. -/
structure ToldBy (images : Image.Overrides) (name : String) (p : ClusterPeer) (env : Environment) :
    Prop where
  /-- The identity is there iff it is given, and then its key is taken from its secret. -/
  identity : env.Identifies "CLUSTER_ID" "CLUSTER_PRIVATEKEY" p.id p.privatekeySecretName
  /-- Each variable says what its own setting does. -/
  own : ((p.fill images).envTable name).Tells env

/-- The environment of an admitted cluster peer. -/
theorem toldBy_of_admission {images : Image.Overrides} {old : Option Manifest} {name : String}
    {a : Admitted} (h : Manifest.admission images old ⟨name, .clusterPeer p⟩ = .ok a) :
    ∃ w, a.workloads = [w] ∧ p.ToldBy images name w.launch.env := by
  have hproblems : (p.fill images).problems = [] := (Manifest.problems_eq_nil_of_admission h).2
  have hpaired := isSome_eq_of_problems_eq_nil hproblems
  obtain ⟨-, rfl⟩ := Manifest.admission_eq_ok_iff.1 h
  have henv : ((p.fill images).workload name).launch.env =
      .ofList ((p.fill images).envTable name).settings := by
    rw [workload, Workload.ofLaunch, launch, env_eq name hpaired]
  have htells : ((p.fill images).envTable name).Tells ((p.fill images).workload name).launch.env :=
    henv ▸ Environment.Table.tells_ofList _
  -- filling leaves the identity and its key alone
  have hid : (p.fill images).id = p.id := rfl
  have hkey : (p.fill images).privatekeySecretName = p.privatekeySecretName := rfl
  rw [hid, hkey] at hpaired
  refine ⟨(p.fill images).workload name, rfl, Environment.identifies_of_get? ?_ ?_ hpaired, htells⟩
  · exact htells.get?_eq (by simp [envTable, hid])
  · exact htells.get?_eq (by simp [envTable, hkey])

end ClusterPeer

end Nodewright.Storage
