import Nodewright.Aptos.Node
import Nodewright.Beacon.Rules
import Nodewright.Beacon.Workloads
import Nodewright.Execution.Rules
import Nodewright.Execution.Workloads
import Nodewright.Oracle.Node
import Nodewright.Storage.ClusterPeer
import Nodewright.Storage.Peer

/-! # Specs of every kind

`Spec` is a spec of one of the kinds. It can be filled, checked by itself and against an older one,
and turned into workloads; each of these does what the kind does.

* `Spec.fill`   gives settings their usual values where none are given
* `Spec.problems`   what is wrong with a spec by itself
* `Spec.changeProblems`   what is wrong with a spec that takes the place of an older one
* `Spec.workloads`   what the backend has to run -/

namespace Nodewright

/-- A spec of some kind. -/
inductive Spec where
  | network (s : Execution.Network)
  | beaconNode (s : Beacon.Node)
  | validator (s : Beacon.Validator)
  | peer (s : Storage.Peer)
  | clusterPeer (s : Storage.ClusterPeer)
  | chainlinkNode (s : Oracle.Node)
  | aptosNode (s : Aptos.Node)
deriving DecidableEq

namespace Spec

/-- The kind of a spec. -/
def kind : Spec → Kind
  | network _ => .network
  | beaconNode _ => .beaconNode
  | validator _ => .validator
  | peer _ => .peer
  | clusterPeer _ => .clusterPeer
  | chainlinkNode _ => .chainlinkNode
  | aptosNode _ => .aptosNode

/-- A spec as JSON. -/
def encode : Spec → Json
  | network s => Execution.Network.codec.encode s
  | beaconNode s => Beacon.Node.codec.encode s
  | validator s => Beacon.Validator.codec.encode s
  | peer s => Storage.Peer.codec.encode s
  | clusterPeer s => Storage.ClusterPeer.codec.encode s
  | chainlinkNode s => Oracle.Node.codec.encode s
  | aptosNode s => Aptos.Node.codec.encode s

/-- Reads a spec of a kind. -/
def decode (kind : Kind) (setting : Setting) (v : Json) : Except DecodeError Spec :=
  match kind with
  | .network => (Execution.Network.codec.decode setting v).map network
  | .beaconNode => (Beacon.Node.codec.decode setting v).map beaconNode
  | .validator => (Beacon.Validator.codec.decode setting v).map validator
  | .peer => (Storage.Peer.codec.decode setting v).map peer
  | .clusterPeer => (Storage.ClusterPeer.codec.decode setting v).map clusterPeer
  | .chainlinkNode => (Oracle.Node.codec.decode setting v).map chainlinkNode
  | .aptosNode => (Aptos.Node.codec.decode setting v).map aptosNode

/-- The usual settings where none are given. -/
def fill (images : Image.Overrides) : Spec → Spec
  | network s => network (s.fill images)
  | beaconNode s => beaconNode (s.fill images)
  | validator s => validator (s.fill images)
  | peer s => peer (s.fill images)
  | clusterPeer s => clusterPeer (s.fill images)
  | chainlinkNode s => chainlinkNode (s.fill images)
  | aptosNode s => aptosNode (s.fill images)

/-- What is wrong with a spec by itself. -/
def problems : Spec → Report
  | network s => s.problems
  | beaconNode s => s.problems
  | validator s => s.problems
  | peer s => s.problems
  | clusterPeer s => s.problems
  | chainlinkNode s => s.problems
  | aptosNode s => s.problems

/-- What is wrong with a spec that takes the place of an older one: what is wrong with it by
    itself, and what changed that must not change. A spec of another kind is turned down for that
    alone. -/
def changeProblems (old new : Spec) : Report :=
  match old, new with
  | network old, network new => new.problems ++ old.transitions new
  | beaconNode old, beaconNode new => new.problems ++ old.transitions new
  | validator old, validator new => new.problems ++ old.transitions new
  | peer old, peer new => new.problems ++ old.transitions new
  | clusterPeer old, clusterPeer new => new.problems ++ old.transitions new
  | chainlinkNode old, chainlinkNode new => new.problems ++ old.transitions new
  | aptosNode old, aptosNode new => new.problems ++ old.transitions new
  | _, new => [.immutable (.ofRoot "kind") (.text new.kind.name)]

/-- The workloads of a spec of the given name. -/
def workloads (name : String) : Spec → List Workload
  | network s => s.workloads name
  | beaconNode s => [s.workload name]
  | validator s => [s.workload name]
  | peer s => [s.workload name]
  | clusterPeer s => [s.workload name]
  | chainlinkNode s => [s.workload name]
  | aptosNode s => [s.workload name]

@[simp] theorem kind_fill (images : Image.Overrides) (s : Spec) :
    (s.fill images).kind = s.kind := by
  cases s <;> rfl

end Spec

/-- What a kind asks for by default. -/
def Kind.profile : Kind → ResourceProfile
  | .network => Execution.Node.profile
  | .beaconNode => Beacon.Node.profile
  | .validator => Beacon.Validator.profile
  | .peer => Storage.Peer.profile
  | .clusterPeer => Storage.ClusterPeer.profile
  | .chainlinkNode => Oracle.Node.profile
  | .aptosNode => Aptos.Node.profile

/-- The keys under which an image may be put in the place of that of a client. -/
def Image.keys : List String :=
  (Named.all : List Execution.Client).map (·.imageSource.key) ++
  (Named.all : List Beacon.Client).flatMap (fun c => [c.nodeImage.key, c.validatorImage.key]) ++
  [Storage.PeerClient.goIpfs.imageSource.key,
    Storage.ClusterClient.ipfsClusterService.imageSource.key,
    Oracle.Client.chainlink.imageSource.key, Aptos.Client.aptosCore.imageSource.key]

end Nodewright
