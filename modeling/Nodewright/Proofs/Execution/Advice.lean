import Nodewright.Execution.Rules
import Nodewright.Proofs.Capability

/-!
# Clients that are advised

A node with an account to import, or one that shall synchronise lightly, needs a client that can do
so. If its client cannot, the violation says which clients would be right. The rule asks the
registry for the client of the node, the advice is a list that is read off all of the registry; so
the advice is good only as far as the two ways to read a registry agree.

## Key results

- `Node.Advises`: a rule advises exactly the clients with which a node would keep it
- `Node.advises_of_support`: a rule does so that asks for a feature and advises the clients with it
- `Registry.lookups_agree`: the two ways to read a registry, and the advice of the two rules
-/

namespace Nodewright

open Report (when)

namespace Execution

/-- The registry of execution clients lists each of them once. -/
theorem nodup_capabilities : (capabilities.entries.map (·.1)).Nodup := by decide

namespace Node

/-- Where the rule is broken, its only violation advises some clients, in the order of the registry.
    They are the clients with which the same node would keep the rule. -/
def Advises (rule : Chain → Node → FieldPath → Report) (reason : String) : Prop :=
  ∀ (c : Chain) (n : Node) (path : FieldPath), rule c n path ≠ [] →
    ∃ clients : List Client,
      rule c n path =
        [n.wrongClient path ("must be " ++ Text.alternatives (clients.map Client.name) ++ reason)] ∧
      clients ≠ [] ∧ clients.Nodup ∧ clients.Sublist (capabilities.entries.map (·.1)) ∧
      ∀ client, client ∈ clients ↔ rule c { n with client } path = []

/-- A rule that asks for a feature, if a node needs it, and advises the clients that have it. What a
    node needs must not depend on its client. -/
theorem advises_of_support {rule : Chain → Node → FieldPath → Report} {needs : Node → Bool}
    {feature : Feature} {reason : String}
    (hrule : ∀ c n path, rule c n path = when (needs n && !n.supports feature)
      (n.wrongClient path ("must be " ++ capabilities.choice feature ++ reason)))
    (hneeds : ∀ (n : Node) (client : Client), needs { n with client } = needs n)
    (hsome : capabilities.supporting feature ≠ []) : Advises rule reason := by
  intro c n path hbroken
  -- the rule is broken, so the node needs the feature and its client lacks it
  have hcondition : (needs n && !n.supports feature) = true := by
    rwa [hrule, Ne, Report.when_eq_nil, Bool.not_eq_false] at hbroken
  have hviolation : rule c n path =
      [n.wrongClient path ("must be " ++ capabilities.choice feature ++ reason)] := by
    rw [hrule, hcondition, Report.when_true]
  have hneeded : needs n = true := (Bool.and_eq_true_iff.1 hcondition).1
  refine ⟨capabilities.supporting feature, hviolation, hsome,
    Registry.nodup_supporting nodup_capabilities feature,
    capabilities.supporting_sublist feature, fun client => ?_⟩
  -- under another client the node has the same needs, so all hangs on what the registry says of it
  rw [hrule, hneeds, hneeded, ← Registry.supports_iff_mem_supporting nodup_capabilities feature]
  simp [supports]

end Node

end Execution

open Execution Node

/-- In a registry that lists each client once, the list of the clients that have a feature holds
    exactly those for which the registry says so, each once and in the order of the registry. So the
    rules on imported accounts and on light synchronisation advise exactly the clients with which a
    node would keep them. -/
theorem Registry.lookups_agree :
    (∀ {α : Type} [DecidableEq α] (r : Registry α), (r.entries.map (·.1)).Nodup →
      ∀ feature : Feature,
        (∀ client, client ∈ r.supporting feature ↔ r.supports client feature = true) ∧
        (r.supporting feature).Nodup ∧
        (r.supporting feature).Sublist (r.entries.map (·.1))) ∧
    Advises importSupport " if import is provided" ∧
    Advises lightSyncSupport " if syncMode is light" := by
  refine ⟨fun r hnodup feature => ⟨fun client => ?_, ?_, r.supporting_sublist feature⟩, ?_, ?_⟩
  · exact (supports_iff_mem_supporting hnodup feature).symm
  · exact nodup_supporting hnodup feature
  · exact advises_of_support (fun _ _ _ => rfl) (fun _ _ => rfl) (by decide)
  · exact advises_of_support (fun _ _ _ => rfl) (fun _ _ => rfl) (by decide)

/-- A node that imports an account and synchronises lightly, whatever its client can do. -/
def Execution.Node.demanding (client : Client) : Node where
  name := "node"
  client
  image := none
  bootnode := false
  nodekeySecretName := none
  bootnodes := []
  miner := false
  coinbase := none
  importedAccount := some ⟨"key", "password"⟩
  syncMode := some .light
  p2pPort := none
  rpc := ⟨.off, []⟩
  ws := ⟨.off, []⟩
  graphql := .off
  hosts := []
  corsDomains := []
  logging := none
  resources := .none

/-- Such a node of a public network, with Besu or with Parity, is told which clients would do. -/
theorem Registry.lookups_agree_demanding :
    let c : Chain := ⟨none, some .rinkeby, none, none⟩
    let place := nodeField 0
    Client.geth ∈ capabilities.supporting .lightSync ∧
    (∃ clients : List Client, importSupport c (demanding .besu) place =
        [(demanding .besu).wrongClient place
          ("must be " ++ Text.alternatives (clients.map Client.name) ++ " if import is provided")] ∧
      ∀ client, client ∈ clients ↔ importSupport c (demanding client) place = []) ∧
    ∃ clients : List Client, lightSyncSupport c (demanding .parity) place =
        [(demanding .parity).wrongClient place
          ("must be " ++ Text.alternatives (clients.map Client.name) ++ " if syncMode is light")] ∧
      ∀ client, client ∈ clients ↔ lightSyncSupport c (demanding client) place = [] := by
  intro c place
  obtain ⟨hlookups, himport, hlight⟩ := lookups_agree
  obtain ⟨importers, himporters, -, -, -, hkeepImport⟩ :=
    himport c (demanding .besu) place (by decide +kernel)
  obtain ⟨lights, hlights, -, -, -, hkeepLight⟩ :=
    hlight c (demanding .parity) place (by decide +kernel)
  obtain ⟨hmem, -, -⟩ := hlookups capabilities nodup_capabilities .lightSync
  exact ⟨(hmem .geth).2 (by decide), ⟨importers, himporters, hkeepImport⟩,
    lights, hlights, hkeepLight⟩

/-- The advice in words. -/
example : importSupport ⟨none, some .rinkeby, none, none⟩ (Node.demanding .besu) (nodeField 0) =
    [(Node.demanding .besu).wrongClient (nodeField 0)
      "must be geth or parity if import is provided"] := by
  decide +kernel

end Nodewright
