import Nodewright.Proofs.Admission.History
import Nodewright.Proofs.Execution.CommandLines.Besu
import Nodewright.Proofs.Execution.CommandLines.Geth
import Nodewright.Proofs.Execution.CommandLines.Parity
import Nodewright.Proofs.Filling.Closure

/-!
# What command lines of execution nodes give away

The clients leave out what goes without saying: geth the main network, parity the usual way to
synchronise, besu the account of a node that does not mine. Others say less than they are told, as
geth does with its levels of logging. Still nothing is lost between nodes that are admitted: two of
them with the same client and the same command line have the same settings.

## Key results

- `Network.node_of_admission`: what is known of the nodes of an admitted network
- `Network.alike_of_launch_args`: nodes of admitted networks are known from their command lines
-/

namespace Nodewright.Execution.Network

/-- The rules hold of the chain and the nodes as they are filled. -/
theorem admissible_of_problems_fill {images : Image.Overrides} {s : Network}
    (h : (s.fill images).problems = []) :
    (s.fill images).chain.Admissible ∧
      ∀ n ∈ (s.fill images).nodes, n.Admissible (s.fill images).chain := by
  simp only [problems, List.append_eq_nil_iff] at h
  obtain ⟨⟨⟨hchain, -⟩, -⟩, hnodes⟩ := h
  refine ⟨Chain.problems_eq_nil_iff.1 hchain, (nodeProblems_fill_eq_nil_iff images).1 ?_⟩
  rwa [fill_fill]

/-- An admitted network is a filled one without problems, and each of its nodes has a workload. -/
theorem of_admission {images : Image.Overrides} {old : Option Manifest} {x : Manifest}
    {a : Admitted} {s : Network} (ha : x.admission images old = .ok a)
    (hs : a.manifest.spec = .network s) :
    (∃ given : Network, s = given.fill images) ∧ s.problems = [] ∧
      a.workloads = s.workloads x.name := by
  have hproblems := (Manifest.problems_eq_nil_of_admission ha).2
  obtain ⟨-, rfl⟩ := Manifest.admission_eq_ok_iff.1 ha
  obtain ⟨name, spec⟩ := x
  cases spec with
  | network given =>
    obtain rfl : given.fill images = s := Spec.network.inj hs
    exact ⟨⟨given, rfl⟩, hproblems, rfl⟩
  | _ => exact nomatch hs

/-- What is known of a node of an admitted network, and how it is started. -/
theorem node_of_admission {images : Image.Overrides} {old : Option Manifest} {x : Manifest}
    {a : Admitted} {s : Network} {n : Node} {w : Workload} (ha : x.admission images old = .ok a)
    (hs : a.manifest.spec = .network s) (hn : (n, w) ∈ s.nodes.zip a.workloads) :
    s.chain.Admissible ∧ n.Admissible s.chain ∧ n.syncMode.isSome ∧
      w.launch = n.client.launch s.chain n := by
  obtain ⟨⟨given, rfl⟩, hproblems, hworkloads⟩ := of_admission ha hs
  obtain ⟨hchain, hnodes⟩ := admissible_of_problems_fill hproblems
  -- each workload is made from the node beside it
  rw [hworkloads, workloads, ← List.map_prod_left_eq_zip, List.mem_map] at hn
  obtain ⟨n, hmem, heq⟩ := hn
  obtain ⟨rfl, rfl⟩ := Prod.mk.inj heq
  obtain ⟨raw, -, rfl⟩ := List.mem_map.1 hmem
  exact ⟨hchain, hnodes _ hmem, rfl, rfl⟩

/-- Two nodes of admitted networks that have the same client and are started with the same
    arguments are the same to their client. -/
theorem alike_of_launch_args {images images' : Image.Overrides} {old old' : Option Manifest}
    {x y : Manifest} {a b : Admitted} {s t : Network} {m n : Node} {v w : Workload}
    (ha : x.admission images old = .ok a) (hb : y.admission images' old' = .ok b)
    (hs : a.manifest.spec = .network s) (ht : b.manifest.spec = .network t)
    (hm : (m, v) ∈ s.nodes.zip a.workloads) (hn : (n, w) ∈ t.nodes.zip b.workloads)
    (hclient : m.client = n.client) (hargs : v.launch.args = w.launch.args) :
    m.Alike s.chain t.chain n := by
  obtain ⟨hc, hm, hfilled, hv⟩ := node_of_admission ha hs hm
  obtain ⟨hd, hn, hfilled', hw⟩ := node_of_admission hb ht hn
  rw [hv, hw] at hargs
  -- each client has its own way to be told, and its own proof that nothing is lost
  cases hm' : m.client with
  | besu =>
    rw [← hclient, hm'] at hargs
    exact Besu.alike_of_args_eq hc hd hm hn hm' hargs
  | geth =>
    rw [← hclient, hm'] at hargs
    exact Geth.alike_of_args_eq hc hd hm hn hm' (hclient ▸ hm') hargs
  | parity =>
    rw [← hclient, hm'] at hargs
    exact Parity.alike_of_args_eq hc hd hm hn hm' (hclient ▸ hm') hfilled hfilled' hargs

/-- A network on the main network with one node of Parity, which listens for calls on a host. -/
def sample (key host : String) (apis : List Api) : Network where
  chain := ⟨none, some .mainnet, none, none⟩
  nodes := [{
    name := "node", client := .parity, image := none, bootnode := false
    nodekeySecretName := some key, bootnodes := [], miner := false, coinbase := none
    importedAccount := none, syncMode := none, p2pPort := none
    rpc := ⟨⟨true, some host, none⟩, apis⟩, ws := ⟨.off, []⟩, graphql := .off
    hosts := [], corsDomains := [], logging := none, resources := .none }]

/-- A node that listens everywhere, and one that says so in the words of Parity and names the calls
    that it would answer anyway. -/
theorem alike_of_launch_args_sample :
    let s := sample "a" "0.0.0.0" []
    let t := sample "b" "all" [.web3, .eth, .net]
    ∃ a b v w m n, Manifest.admission .none none ⟨"left", .network s⟩ = .ok a ∧
      Manifest.admission .none none ⟨"right", .network t⟩ = .ok b ∧
      (s.fill .none).nodes = [m] ∧ a.workloads = [v] ∧
      (t.fill .none).nodes = [n] ∧ b.workloads = [w] ∧ v.launch.args = w.launch.args ∧
      m.Alike (s.fill .none).chain (t.fill .none).chain n := by
  intro s t
  have ha : Manifest.admission .none none ⟨"left", .network s⟩ = .ok _ :=
    Manifest.admission_eq_ok_iff.2 ⟨by decide +kernel, rfl⟩
  have hb : Manifest.admission .none none ⟨"right", .network t⟩ = .ok _ :=
    Manifest.admission_eq_ok_iff.2 ⟨by decide +kernel, rfl⟩
  -- Parity turns the wildcard into its own word, and the usual calls are filled in
  have hargs : ((s.fill .none).workloads "left").map (·.launch.args) =
      ((t.fill .none).workloads "right").map (·.launch.args) := by decide +kernel
  obtain ⟨hargs, -⟩ := List.cons.inj hargs
  refine ⟨_, _, _, _, _, _, ha, hb, rfl, rfl, rfl, rfl, hargs, ?_⟩
  exact alike_of_launch_args ha hb rfl rfl List.mem_cons_self List.mem_cons_self rfl hargs

end Nodewright.Execution.Network
