import Nodewright.Capability
import Nodewright.Image.Overrides

/-! # The words of content-addressed storage

Clients of peers and of cluster peers with their capabilities and images, and the choices that
their specs offer. -/

namespace Nodewright.Storage

/-- A program that runs a peer. -/
inductive PeerClient where
  | goIpfs
deriving DecidableEq, Repr

/-- A program that runs a cluster peer. -/
inductive ClusterClient where
  | ipfsClusterService
deriving DecidableEq, Repr

/-- A set of settings that a peer knows by name. -/
inductive Profile where
  | server
  | randomports
  | defaultDatastore
  | localDiscovery
  | test
  | defaultNetworking
  | flatfs
  | badgerds
  | lowpower
deriving DecidableEq, Repr

/-- How a peer finds content. -/
inductive Routing where
  | none
  | dht
  | dhtclient
  | dhtserver
deriving DecidableEq, Repr

/-- How a cluster agrees on what it holds. -/
inductive ClusterConsensus where
  | crdt
  | raft
deriving DecidableEq, Repr

namespace PeerClient

/-- The name of a client. -/
def name : PeerClient → String
  | goIpfs => "go-ipfs"

instance : Named PeerClient where
  all := [goIpfs]
  name := name
  mem_all a := by cases a; simp
  name_injective a b := by cases a; cases b; simp

/-- The image of a peer. -/
def imageSource : PeerClient → Image.Source
  | goIpfs => ⟨"GO_IPFS_IMAGE", "ipfs/go-ipfs:v0.15.0"⟩

end PeerClient

namespace ClusterClient

/-- The name of a client. -/
def name : ClusterClient → String
  | ipfsClusterService => "ipfs-cluster-service"

instance : Named ClusterClient where
  all := [ipfsClusterService]
  name := name
  mem_all a := by cases a; simp
  name_injective a b := by cases a; cases b; simp

/-- The image of a cluster peer. -/
def imageSource : ClusterClient → Image.Source
  | ipfsClusterService => ⟨"IPFS_CLUSTER_IMAGE", "ipfs/ipfs-cluster:v1.0.2"⟩

end ClusterClient

namespace Profile

/-- The name of a profile. -/
def name : Profile → String
  | server => "server"
  | randomports => "randomports"
  | defaultDatastore => "default-datastore"
  | localDiscovery => "local-discovery"
  | test => "test"
  | defaultNetworking => "default-networking"
  | flatfs => "flatfs"
  | badgerds => "badgerds"
  | lowpower => "lowpower"

instance : Named Profile where
  all := [server, randomports, defaultDatastore, localDiscovery, test, defaultNetworking, flatfs,
    badgerds, lowpower]
  name := name
  mem_all a := by cases a <;> simp
  name_injective a b := by cases a <;> cases b <;> simp [name]

end Profile

namespace Routing

/-- The name of a way to find content. -/
def name : Routing → String
  | none => "none"
  | dht => "dht"
  | dhtclient => "dhtclient"
  | dhtserver => "dhtserver"

instance : Named Routing where
  all := [none, dht, dhtclient, dhtserver]
  name := name
  mem_all a := by cases a <;> simp
  name_injective a b := by cases a <;> cases b <;> simp [name]

end Routing

namespace ClusterConsensus

/-- The name of a consensus rule. -/
def name : ClusterConsensus → String
  | crdt => "crdt"
  | raft => "raft"

instance : Named ClusterConsensus where
  all := [crdt, raft]
  name := name
  mem_all a := by cases a <;> simp
  name_injective a b := by cases a <;> cases b <;> simp [name]

end ClusterConsensus

/-- The levels of logging that both programs know. -/
def levels : List Feature :=
  [.logging .debug, .logging .info, .logging .warn, .logging .error, .logging .panic,
    .logging .fatal]

/-- What the client of a peer can do. -/
def peerCapabilities : Registry PeerClient := ⟨[(.goIpfs, levels)]⟩

/-- What the client of a cluster peer can do. -/
def clusterCapabilities : Registry ClusterClient := ⟨[(.ipfsClusterService, levels)]⟩

end Nodewright.Storage
