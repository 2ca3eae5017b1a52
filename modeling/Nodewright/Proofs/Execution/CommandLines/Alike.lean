import Mathlib.Data.List.Nodup
import Mathlib.Data.Option.Basic
import Nodewright.Execution.Workloads
import Nodewright.Proofs.Arguments.Items
import Nodewright.Proofs.Execution.Admissible

/-!
# Nodes between which their client cannot choose

A client need not be told everything about a node, and it may be told one thing in two ways. This
file says which nodes count as the same to their client, and what the command lines of all clients
have in common.

## Key results

- `Node.Alike`: nodes that are the same to their client
- `CallEndpoint.alike_of_items`: interfaces are known from their items
- `Chain.Admissible.id_eq`: the identity of a chain is known from its text
-/

namespace Nodewright

/-- A closed vocabulary can be told apart by whatever is distinct for its values. -/
theorem Named.injective_of_nodup {α β : Type} [Named α] {f : α → β}
    (h : ((all : List α).map f).Nodup) : Function.Injective f :=
  fun a b => List.inj_on_of_nodup_map h (mem_all a) (mem_all b)

/-- Levels of logging differ in capitals too. -/
theorem Verbosity.upperName_injective : Function.Injective upperName :=
  Named.injective_of_nodup (by decide)

namespace Execution

open Arguments

/-! ## Nodes that are the same to their clients -/

/-- The name that a client has for a host. To Parity, the wildcard is a host of the name "all". -/
def Client.hostName (client : Client) (host : String) : String :=
  match client with
  | besu => host
  | geth => host
  | parity => if host = "0.0.0.0" then "all" else host

/-- Two interfaces that are both not offered, or are offered at the same place with the same calls.
    Hosts are compared by the names that the client has for them. -/
structure CallEndpoint.Alike (hostName : String → String) (e f : CallEndpoint) : Prop where
  enabled : e.endpoint.enabled = f.endpoint.enabled
  host : e.endpoint.enabled = true → e.endpoint.host.map hostName = f.endpoint.host.map hostName
  port : e.endpoint.enabled = true → e.endpoint.port = f.endpoint.port
  apis : e.endpoint.enabled = true → e.apis = f.apis

/-- Two nodes, each with its chain, between which their client cannot choose. -/
structure Node.Alike (c d : Chain) (m n : Node) : Prop where
  join : c.join = d.join
  id : c.id = d.id
  nodekey : m.nodekeySecretName.isSome = n.nodekeySecretName.isSome
  bootnodes : Text.joinWith "," m.bootnodes = Text.joinWith "," n.bootnodes
  p2pPort : m.p2pPort = n.p2pPort
  syncMode : m.syncMode = n.syncMode
  miner : m.miner = n.miner
  coinbase : m.coinbase = n.coinbase
  rpc : m.rpc.Alike m.client.hostName n.rpc
  ws : m.ws.Alike m.client.hostName n.ws
  graphql : m.graphql.enabled = n.graphql.enabled
  /-- Only Besu answers graph queries at a place of their own. -/
  graphqlPlace : m.client = .besu → m.graphql.enabled = true →
    m.graphql.host = n.graphql.host ∧ m.graphql.port = n.graphql.port
  logging : m.logging = n.logging

/-! ## Names that differ -/

theorem SyncMode.upperName_injective : Function.Injective upperName :=
  Named.injective_of_nodup (by decide)

theorem Api.upperName_injective : Function.Injective upperName :=
  Named.injective_of_nodup (by decide)

/-- A list of names with commas between them can be taken apart again. -/
theorem Api.comma_notMem_name (api : Api) : ',' ∉ api.name.toList := by
  cases api <;> decide

theorem Api.comma_notMem_upperName (api : Api) : ',' ∉ api.upperName.toList := by
  cases api <;> decide

/-! ## Items that clients have in common -/

/-- Where an interface listens, and what it answers. -/
def CallEndpoint.items (hostFlag portFlag apiFlag : String) (hostName : String → String)
    (apiName : Api → String) (e : CallEndpoint) : List Item :=
  [.setting hostFlag (e.endpoint.host.map hostName),
    .setting portFlag (e.endpoint.port.map port),
    .setting apiFlag (joined (e.apis.map apiName))]

/-- Interfaces that are offered under the same conditions are alike if their items are the same. -/
theorem CallEndpoint.alike_of_items {hostName : String → String} {apiName : Api → String}
    (hname : Function.Injective apiName) (hcomma : ∀ api, ',' ∉ (apiName api).toList)
    {e f : CallEndpoint} (henabled : e.endpoint.enabled = f.endpoint.enabled)
    (hhost : onlyIf e.endpoint.enabled (e.endpoint.host.map hostName) =
      onlyIf f.endpoint.enabled (f.endpoint.host.map hostName))
    (hport : onlyIf e.endpoint.enabled (e.endpoint.port.map port) =
      onlyIf f.endpoint.enabled (f.endpoint.port.map port))
    (hapis : onlyIf e.endpoint.enabled (joined (e.apis.map apiName)) =
      onlyIf f.endpoint.enabled (joined (f.apis.map apiName))) : e.Alike hostName f := by
  -- an interface that is not offered need not be the same in anything else
  rw [← henabled] at hhost hport hapis
  refine ⟨henabled, fun he => ?_, fun he => ?_, fun he => ?_⟩
  · rwa [he] at hhost
  · rw [he] at hport
    exact Option.map_injective port_injective hport
  · rw [he] at hapis
    exact joined_map_injective hname hcomma hapis

/-- The identity of a chain that is not joined. -/
def Chain.idText (c : Chain) : Option String :=
  onlyIf c.join.isNone (c.id.map fun id => toString id.toNat)

namespace Chain

variable {c d : Chain}

/-- An identity is given for the chains that are not joined. -/
theorem Admissible.isSome_idText (h : c.Admissible) : c.idText.isSome = c.join.isNone := by
  -- a chain that is started has an identity, and one that is joined has none
  rcases h.source with ⟨hjoin, -⟩ | ⟨hjoin, hgenesis⟩
  · rw [idText, Option.isNone_eq_false_iff.2 hjoin]
    rfl
  · obtain ⟨g, hg⟩ := Option.isSome_iff_exists.1 hgenesis
    simpa [idText, hjoin] using (h.started g hg).1

/-- The identity of a chain is known from its text. -/
theorem Admissible.id_eq (hc : c.Admissible) (hd : d.Admissible) (hjoin : c.join = d.join)
    (hid : c.idText = d.idText) : c.id = d.id := by
  -- both chains are joined, or both are started and have the same text
  rcases hc.source with ⟨hsome, -⟩ | ⟨hnone, -⟩
  · rw [(hc.joined hsome).1, (hd.joined (hjoin ▸ hsome)).1]
  · simp only [idText, ← hjoin, hnone, Option.isNone_none, onlyIf_true] at hid
    exact Option.map_injective (fun _ _ h => UInt64.toNat_inj.1 (toString_injective h)) hid

end Chain

namespace Node

variable {c : Chain} {n : Node}

/-- The imported account that a node unlocks. -/
def unlocked (n : Node) : Option String := onlyIf n.importedAccount.isSome n.coinbase

/-- Only miners have an account to be paid to. -/
theorem Admissible.onlyIf_coinbase (h : n.Admissible c) :
    onlyIf n.miner n.coinbase = n.coinbase := by
  cases hminer : n.miner with
  | true => rfl
  | false =>
    have hnone : ¬ n.coinbase.isSome := fun hsome => by simp [h.miner.2 hsome] at hminer
    rw [Option.not_isSome_iff_eq_none.1 hnone]
    rfl

end Node

end Execution

end Nodewright
