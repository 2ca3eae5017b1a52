import Mathlib.Data.List.ReduceOption
import Nodewright.Proofs.Admission.History
import Nodewright.Proofs.Arguments.Items
import Nodewright.Proofs.Workloads.Variables

/-!
# The environment of an oracle node

An oracle node is told of the execution nodes that it may ask one question at a time by two
variables: the first node stands by itself, and the others together, behind each other. So the
endpoints of the spec can be read off the environment, as long as no variable is lost to another
one.

## Key results

- `Node.envTable`: what each variable says
- `Node.env_eq`: the environment is made from its table
- `Node.asks_of_tells`: where the endpoints of the spec are found
- `Node.toldBy_of_admission`: the environment of an admitted node
-/

namespace Nodewright

/-- What is joined behind the first text is joined with it. -/
theorem Text.joinWith_joinWith {sep s : String} {others : List String} (h : others ≠ []) :
    joinWith sep [s, joinWith sep others] = joinWith sep (s :: others) := by
  cases others with
  | nil => exact absurd rfl h
  | cons t rest => rw [joinWith_cons_cons, joinWith_cons_cons, joinWith_singleton]

namespace Oracle.Node

open Arguments

variable {n : Node}

/-- What the variables of an oracle node say. -/
def envTable (n : Node) : Environment.Table where
  rows := [
    ("ROOT", some (.literal (Home.data home))),
    ("ETH_CHAIN_ID", some (.literal (toString n.ethereumChainId.toNat))),
    ("ETH_URL", some (.literal n.ethereumWsEndpoint)),
    ("LINK_CONTRACT_ADDRESS", some (.literal n.linkContractAddress)),
    ("DATABASE_URL", some (.literal n.databaseUrl)),
    ("SECURE_COOKIES", some (.literal (toString n.secureCookies))),
    ("ETH_HTTP_URL", n.ethereumHttpEndpoints.head?.map .literal),
    ("ETH_SECONDARY_URLS", (joined n.ethereumHttpEndpoints.tail).map .literal),
    ("CHAINLINK_PORT", n.apiPort.map fun p => .literal (port p)),
    ("CHAINLINK_TLS_PORT", if n.certSecretName.isSome then n.tlsPort.map fun p => .literal (port p)
      else some (.literal "0")),
    ("TLS_CERT_PATH", onlyIf n.certSecretName.isSome
      (some (.literal (Home.secret home "tls-secret/tls.crt")))),
    ("TLS_KEY_PATH", onlyIf n.certSecretName.isSome
      (some (.literal (Home.secret home "tls-secret/tls.key")))),
    ("P2P_LISTEN_PORT", n.p2pPort.map fun p => .literal (port p)),
    ("ALLOW_ORIGINS", (joined n.corsDomains).map .literal),
    ("LOG_LEVEL", n.logging.map fun level => .literal level.name)]
  distinct := by simp

theorem httpVariables_eq (n : Node) : httpVariables n =
    Environment.given "ETH_HTTP_URL" (n.ethereumHttpEndpoints.head?.map .literal) ++
      Environment.given "ETH_SECONDARY_URLS"
        ((joined n.ethereumHttpEndpoints.tail).map .literal) := by
  rw [httpVariables]
  rcases n.ethereumHttpEndpoints with - | ⟨first, - | ⟨second, others⟩⟩ <;> rfl

/-- The environment of an oracle node is made from its table. -/
theorem env_eq (n : Node) : env n = .ofList n.envTable.settings := by
  have horigins : (if n.corsDomains.isEmpty then none
      else some (EnvValue.literal (Text.joinWith "," n.corsDomains))) =
      (joined n.corsDomains).map .literal := by
    cases n.corsDomains <;> rfl
  rw [env, horigins, httpVariables_eq]
  cases hcert : n.certSecretName <;>
    simp [tlsVariables, hcert, envTable, Environment.Table.settings]

/-- What an oracle node is told of execution nodes that it may ask one question at a time. -/
structure Asks (endpoints : List String) (env : Environment) : Prop where
  /-- The first one has a variable if there is one. -/
  first : (env.get? "ETH_HTTP_URL").isSome ↔ endpoints ≠ []
  /-- The others have one if there are others. -/
  others : (env.get? "ETH_SECONDARY_URLS").isSome ↔ 2 ≤ endpoints.length
  /-- What the variables say, behind each other, are all endpoints in their order. -/
  all : ∃ texts, [env.get? "ETH_HTTP_URL", env.get? "ETH_SECONDARY_URLS"].reduceOption =
      texts.map EnvValue.literal ∧
    Text.joinWith "," texts = Text.joinWith "," endpoints

/-- An environment that says what the table of a node does tells where the endpoints are. -/
theorem asks_of_tells {env : Environment} (h : n.envTable.Tells env) :
    Asks n.ethereumHttpEndpoints env := by
  have hfirst : env.get? "ETH_HTTP_URL" = n.ethereumHttpEndpoints.head?.map .literal :=
    h.get?_eq (by simp [envTable])
  have hothers : env.get? "ETH_SECONDARY_URLS" =
      (joined n.ethereumHttpEndpoints.tail).map .literal :=
    h.get?_eq (by simp [envTable])
  -- there are no endpoints, one, or a first one and others
  rcases hendpoints : n.ethereumHttpEndpoints with - | ⟨first, - | ⟨second, others⟩⟩
  · rw [hendpoints] at hfirst hothers
    exact ⟨by simp [hfirst], by simp [hothers, joined], [],
      by simp [hfirst, hothers, joined], rfl⟩
  · rw [hendpoints] at hfirst hothers
    exact ⟨by simp [hfirst], by simp [hothers, joined], [first],
      by simp [hfirst, hothers, joined], rfl⟩
  · rw [hendpoints] at hfirst hothers
    exact ⟨by simp [hfirst], by simp [hothers, joined],
      [first, Text.joinWith "," (second :: others)],
      by simp [hfirst, hothers, joined],
      Text.joinWith_joinWith (List.cons_ne_nil second others)⟩

/-- What the environment of an oracle node says. -/
structure ToldBy (images : Image.Overrides) (n : Node) (env : Environment) : Prop where
  /-- The endpoints of execution nodes are all there. -/
  asks : Asks n.ethereumHttpEndpoints env
  /-- Each variable says what its own setting does. -/
  own : (n.fill images).envTable.Tells env

/-- The only workload of an admitted oracle node has the environment of the node with the usual
    settings. -/
theorem env_of_admission {images : Image.Overrides} {old : Option Manifest} {name : String}
    {a : Admitted} (h : Manifest.admission images old ⟨name, .chainlinkNode n⟩ = .ok a) :
    ∃ w, a.workloads = [w] ∧ w.launch.env = env (n.fill images) := by
  obtain ⟨-, rfl⟩ := Manifest.admission_eq_ok_iff.1 h
  have henv : ((n.fill images).workload name).launch.env = env (n.fill images) := by
    rw [workload, Workload.ofLaunch, launch]
  exact ⟨(n.fill images).workload name, rfl, henv⟩

/-- The environment of an admitted oracle node. -/
theorem toldBy_of_admission {images : Image.Overrides} {old : Option Manifest} {name : String}
    {a : Admitted} (h : Manifest.admission images old ⟨name, .chainlinkNode n⟩ = .ok a) :
    ∃ w, a.workloads = [w] ∧ n.ToldBy images w.launch.env := by
  obtain ⟨w, hw, henv⟩ := env_of_admission h
  have htells : (n.fill images).envTable.Tells w.launch.env := by
    rw [henv, env_eq]
    exact Environment.Table.tells_ofList _
  -- filling leaves the endpoints alone
  have hendpoints : (n.fill images).ethereumHttpEndpoints = n.ethereumHttpEndpoints := rfl
  exact ⟨w, hw, hendpoints ▸ asks_of_tells htells, htells⟩

end Oracle.Node

end Nodewright
