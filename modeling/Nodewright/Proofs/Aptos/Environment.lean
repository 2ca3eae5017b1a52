import Nodewright.Proofs.Admission.History
import Nodewright.Proofs.Arguments.Items
import Nodewright.Proofs.Workloads.Variables

/-!
# The environment of an Aptos node

Two parts of the environment of an Aptos node are made from two settings each: its identity and the
key of it, and the host and the port of its interface. Such a part is missing as soon as one of its
settings is. For the identity the rules see to it that its settings come together, and an interface
that is on gets the usual settings where none are given.

## Key results

- `Node.envTable`: what each variable says
- `Node.isSome_eq_of_problems_eq_nil`: an identity comes with its key
- `Node.apiVariables_eq`: an interface that is on has an address
- `Node.toldBy_of_admission`: the environment of an admitted node
-/

namespace Nodewright.Aptos.Node

open Arguments

variable {n : Node}

/-- Where the interface of a node is, if it is on, with the usual host and port where none are
    given. -/
def apiAddress (n : Node) : String :=
  n.api.host.getD Endpoint.wildcard ++ ":" ++ port (n.api.port.getD 8080)

/-- What the variables of an Aptos node say. -/
def envTable (n : Node) : Environment.Table where
  rows := [
    ("APTOS_NODE_ROLE", some (.literal n.role)),
    ("APTOS_NETWORK", some (.literal n.network.name)),
    ("APTOS_DATA_DIR", some (.literal (Home.data home))),
    ("APTOS_WAYPOINT", some (.literal n.waypoint)),
    ("APTOS_GENESIS_PATH", some (.literal (Home.config home ++ "/genesis.blob"))),
    ("APTOS_API_ADDRESS", onlyIf n.api.enabled (some (.literal n.apiAddress))),
    ("APTOS_P2P_PORT", n.p2pPort.map fun p => .literal (port p)),
    ("APTOS_PEER_ID", n.peerId.map .literal),
    ("APTOS_NODE_PRIVATE_KEY", n.nodePrivateKeySecretName.map fun secret => .secret secret "key"),
    ("RUST_LOG", n.logging.map fun level => .literal level.name)]
  distinct := by simp

/-- A node without problems has an identity and a key for it, or neither. -/
theorem isSome_eq_of_problems_eq_nil (h : n.problems = []) :
    n.peerId.isSome = n.nodePrivateKeySecretName.isSome := by
  simp only [problems, List.append_eq_nil_iff] at h
  obtain ⟨⟨⟨⟨-, hid⟩, hkey⟩, -⟩, -⟩ := h
  rw [peerIdRequiresKey, Report.when_eq_nil] at hid
  rw [keyRequiresPeerId, Report.when_eq_nil] at hkey
  exact Environment.isSome_eq_of_demands hid hkey

/-- An interface with the usual settings is left out only if it is off. -/
theorem apiVariables_eq (hfilled : n.api.fill 8080 = n.api) :
    n.apiVariables = Environment.given "APTOS_API_ADDRESS"
      (onlyIf n.api.enabled (some (.literal n.apiAddress))) := by
  rw [apiVariables, apiAddress, ← hfilled]
  obtain ⟨enabled, host, port⟩ := n.api
  cases enabled <;> simp [Endpoint.fill]

/-- Where an identity comes with its key, and the interface has the usual settings, the environment
    of a node is made from its table. -/
theorem env_eq (hpaired : n.peerId.isSome = n.nodePrivateKeySecretName.isSome)
    (hfilled : n.api.fill 8080 = n.api) : env n = .ofList n.envTable.settings := by
  -- the identity is told with its key or not at all, so one without the other would be lost
  cases hid : n.peerId <;> cases hkey : n.nodePrivateKeySecretName <;>
    simp_all [env, apiVariables_eq hfilled, identity, envTable, Environment.Table.settings]

/-- Filling says nothing new about where the interface is. -/
theorem apiAddress_fill (images : Image.Overrides) (hon : n.api.enabled = true) :
    (n.fill images).apiAddress = n.apiAddress := by
  have hfill : (n.fill images).api = n.api.fill 8080 := rfl
  simp [apiAddress, hfill, Endpoint.fill, hon]

/-- What the environment of an Aptos node says. -/
structure ToldBy (images : Image.Overrides) (n : Node) (env : Environment) : Prop where
  /-- The identity is there iff it is given, and then its key is taken from its secret. -/
  identity : env.Identifies "APTOS_PEER_ID" "APTOS_NODE_PRIVATE_KEY" n.peerId
    n.nodePrivateKeySecretName
  /-- There is an address of the interface iff the interface is on. -/
  api : (env.get? "APTOS_API_ADDRESS").isSome ↔ n.api.enabled = true
  /-- It is the host and the port of the interface. -/
  address : n.api.enabled = true → env.get? "APTOS_API_ADDRESS" = some (.literal n.apiAddress)
  /-- Each variable says what its own setting does. -/
  own : (n.fill images).envTable.Tells env

/-- The environment of an admitted Aptos node. -/
theorem toldBy_of_admission {images : Image.Overrides} {old : Option Manifest} {name : String}
    {a : Admitted} (h : Manifest.admission images old ⟨name, .aptosNode n⟩ = .ok a) :
    ∃ w, a.workloads = [w] ∧ n.ToldBy images w.launch.env := by
  have hproblems : (n.fill images).problems = [] := (Manifest.problems_eq_nil_of_admission h).2
  have hpaired := isSome_eq_of_problems_eq_nil hproblems
  obtain ⟨-, rfl⟩ := Manifest.admission_eq_ok_iff.1 h
  -- filling leaves the identity and its key alone
  have hid : (n.fill images).peerId = n.peerId := rfl
  have hkey : (n.fill images).nodePrivateKeySecretName = n.nodePrivateKeySecretName := rfl
  have hfill : (n.fill images).api = n.api.fill 8080 := rfl
  have henv : ((n.fill images).workload name).launch.env =
      .ofList (n.fill images).envTable.settings := by
    rw [workload, Workload.ofLaunch, launch, env_eq hpaired (by rw [hfill, Endpoint.fill_fill])]
  have htells : (n.fill images).envTable.Tells ((n.fill images).workload name).launch.env :=
    henv ▸ Environment.Table.tells_ofList _
  have hapi : ((n.fill images).workload name).launch.env.get? "APTOS_API_ADDRESS" =
      onlyIf n.api.enabled (some (.literal (n.fill images).apiAddress)) :=
    htells.get?_eq (by simp [envTable, hfill])
  rw [hid, hkey] at hpaired
  refine ⟨(n.fill images).workload name, rfl, ?_, ?_, fun hon => ?_, htells⟩
  · refine Environment.identifies_of_get? ?_ ?_ hpaired
    · exact htells.get?_eq (by simp [envTable, hid])
    · exact htells.get?_eq (by simp [envTable, hkey])
  · rw [hapi]
    cases n.api.enabled <;> simp
  · rw [hapi, hon, onlyIf_true, apiAddress_fill images hon]

end Nodewright.Aptos.Node
