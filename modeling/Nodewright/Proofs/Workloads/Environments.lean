import Nodewright.Proofs.Aptos.Environment
import Nodewright.Proofs.Oracle.Listener
import Nodewright.Proofs.Secrets.Confinement
import Nodewright.Proofs.Storage.Environment

/-!
# What environments say of their specs

Four kinds of nodes are told what their specs say through their environments. No setting is lost on
the way: neither because a part that is made from two settings lacks one of them, nor because a
later variable has the name of an earlier one.

## Key results

- `Spec.ToldBy`: what an environment says of a spec, for the kinds that have variables
- `Manifest.toldBy_environment`: the environments of admitted manifests say so
-/

namespace Nodewright

/-- An environment says what a spec with the usual settings does. The identity of a node comes with
    its key, an interface that is on with its address, and a list of endpoints with all of them; and
    each variable says what its own setting does. -/
inductive Spec.ToldBy (images : Image.Overrides) (name : String) (env : Environment) : Spec → Prop
  | peer {p : Storage.Peer} (h : (p.fill images).envTable.Tells env) :
    ToldBy images name env (.peer p)
  | clusterPeer {p : Storage.ClusterPeer} (h : p.ToldBy images name env) :
    ToldBy images name env (.clusterPeer p)
  | chainlinkNode {n : Oracle.Node} (h : n.ToldBy images env) :
    ToldBy images name env (.chainlinkNode n)
  | aptosNode {n : Aptos.Node} (h : n.ToldBy images env) : ToldBy images name env (.aptosNode n)

namespace Manifest

/-- The only workload of an admitted manifest of a kind with variables has an environment that says
    what the manifest does. -/
theorem toldBy_environment {images : Image.Overrides} {old : Option Manifest} {m : Manifest}
    {a : Admitted} (h : m.admission images old = .ok a)
    (hkind : m.kind ∈ [.peer, .clusterPeer, .chainlinkNode, .aptosNode]) :
    ∃ w, a.workloads = [w] ∧ m.spec.ToldBy images m.name w.launch.env := by
  obtain ⟨name, spec⟩ := m
  -- the other kinds tell their nodes everything on the command line
  cases spec with
  | peer p =>
    obtain ⟨w, hw, htells⟩ := Storage.Peer.tells_of_admission h
    exact ⟨w, hw, .peer htells⟩
  | clusterPeer p =>
    obtain ⟨w, hw, htold⟩ := Storage.ClusterPeer.toldBy_of_admission h
    exact ⟨w, hw, .clusterPeer htold⟩
  | chainlinkNode n =>
    obtain ⟨w, hw, htold⟩ := Oracle.Node.toldBy_of_admission h
    exact ⟨w, hw, .chainlinkNode htold⟩
  | aptosNode n =>
    obtain ⟨w, hw, htold⟩ := Aptos.Node.toldBy_of_admission h
    exact ⟨w, hw, .aptosNode htold⟩
  | network _ | beaconNode _ | validator _ => simp [kind, Spec.kind] at hkind

/-- An oracle node that may ask three execution nodes one question at a time. -/
def oracleSample : Manifest where
  name := "node"
  spec := .chainlinkNode
    { Oracle.Node.listening none with
      ethereumHttpEndpoints := ["http://[::1]", "http://[::2]", "https://[::3]"] }

/-- A cluster peer takes its key from the secret that is given with its identity, and an oracle node
    is told all endpoints. -/
theorem toldBy_environment_sample :
    (∃ a w, (clusterSample "cluster" "key").admission .none none = .ok a ∧ a.workloads = [w] ∧
      (w.launch.env.get? "CLUSTER_ID").isSome ∧
      w.launch.env.get? "CLUSTER_PRIVATEKEY" = some (.secret "key" "key")) ∧
    ∃ a w, oracleSample.admission .none none = .ok a ∧ a.workloads = [w] ∧
      w.launch.env.get? "ETH_HTTP_URL" = some (.literal "http://[::1]") ∧
      w.launch.env.get? "ETH_SECONDARY_URLS" = some (.literal "http://[::2],https://[::3]") := by
  constructor
  · have ha : (clusterSample "cluster" "key").admission .none none = .ok _ :=
      admission_eq_ok_iff.2 ⟨by decide +kernel, rfl⟩
    obtain ⟨w, hw, htold⟩ := toldBy_environment ha (by decide)
    cases htold with
    | clusterPeer h =>
      obtain ⟨secret, hsecret, hkey⟩ := (h.identity.out 1 3).1 rfl
      obtain rfl := Option.some.inj hsecret
      exact ⟨_, w, ha, hw, (h.identity.out 0 1).2 rfl, hkey⟩
  · have ha : oracleSample.admission .none none = .ok _ :=
      admission_eq_ok_iff.2 ⟨by decide +kernel, rfl⟩
    obtain ⟨w, hw, htold⟩ := toldBy_environment ha (by decide)
    cases htold with
    | chainlinkNode h =>
      exact ⟨_, w, ha, hw, h.own.get?_eq (by decide), h.own.get?_eq (by decide)⟩

end Manifest

end Nodewright
