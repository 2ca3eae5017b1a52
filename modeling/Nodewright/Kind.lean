import Nodewright.Named

/-! # Kinds of specs

Each kind describes one product family, and belongs to one protocol. -/

namespace Nodewright

/-- What a spec describes. -/
inductive Kind where
  /-- An execution network of one or more nodes. -/
  | network
  /-- A node of the consensus chain. -/
  | beaconNode
  /-- A validator of the consensus chain. -/
  | validator
  /-- A peer of a content-addressed store. -/
  | peer
  /-- A peer of a cluster that replicates such a store. -/
  | clusterPeer
  /-- An oracle node. -/
  | chainlinkNode
  /-- A full node of the Aptos chain. -/
  | aptosNode
deriving DecidableEq, Repr

namespace Kind

/-- The name of a kind, as its tag in a manifest. -/
def name : Kind → String
  | network => "Network"
  | beaconNode => "BeaconNode"
  | validator => "Validator"
  | peer => "Peer"
  | clusterPeer => "ClusterPeer"
  | chainlinkNode => "ChainlinkNode"
  | aptosNode => "AptosNode"

instance : Named Kind where
  all := [network, beaconNode, validator, peer, clusterPeer, chainlinkNode, aptosNode]
  name := name
  mem_all a := by cases a <;> simp
  name_injective a b := by cases a <;> cases b <;> simp [name]

/-- The protocol that a kind belongs to. -/
def protocol : Kind → String
  | network => "ethereum"
  | beaconNode | validator => "ethereum2"
  | peer | clusterPeer => "ipfs"
  | chainlinkNode => "chainlink"
  | aptosNode => "aptos"

/-- The name of a kind in lower-case letters, as labels have it. -/
def lowerName : Kind → String
  | network => "network"
  | beaconNode => "beaconnode"
  | validator => "validator"
  | peer => "peer"
  | clusterPeer => "clusterpeer"
  | chainlinkNode => "chainlinknode"
  | aptosNode => "aptosnode"

end Kind

end Nodewright
