import Nodewright.Arguments
import Nodewright.Codec.Choice
import Nodewright.Format
import Nodewright.Home
import Nodewright.Storage.Client
import Nodewright.Workload

/-! # Peers of a storage cluster

A cluster peer pins content at a storage peer, together with the other peers of its cluster. -/

namespace Nodewright.Storage

open FieldPath (field)
open Report (when)

/-- A peer of a cluster. -/
structure ClusterPeer where
  client : ClusterClient
  image : Option String
  consensus : ClusterConsensus
  /-- Where the storage peer answers that content is pinned at. -/
  peerEndpoint : String
  clusterSecretName : String
  /-- The identity of the peer, which comes with its key. -/
  id : Option String
  privatekeySecretName : Option String
  /-- Peers that may change what the cluster holds. -/
  trustedPeers : List String
  bootstrapPeers : List String
  logging : Option Verbosity
  resources : Resources
deriving DecidableEq

namespace ClusterPeer

/-- A cluster peer as JSON. -/
def codec : Codec ClusterPeer :=
  (Fields.build mk
    |>.member (.defaulted "client" (.client ClusterClient .clusterPeer) .ipfsClusterService) client
    |>.member (.optional "image" .text) image
    |>.member (.defaulted "consensus" (.choice ClusterConsensus) .crdt) consensus
    |>.member (.defaulted "peerEndpoint" .text "") peerEndpoint
    |>.member (.defaulted "clusterSecretName" .text "") clusterSecretName
    |>.member (.optional "id" .text) id
    |>.member (.optional "privatekeySecretName" .text) privatekeySecretName
    |>.member (.listing "trustedPeers" .text) trustedPeers
    |>.member (.listing "bootstrapPeers" .text) bootstrapPeers
    |>.member (.optional "logging" (.choice Verbosity)) logging
    |>.member (.defaulted "resources" Resources.codec .none) resources).codec "ClusterPeerSpec"

/-- What a cluster peer asks for by default. -/
def profile : ResourceProfile := ⟨"1", "1", "1Gi", "2Gi", "5Gi"⟩

/-- The usual settings where none are given. A cluster without a leader trusts every peer. -/
def fill (images : Image.Overrides) (p : ClusterPeer) : ClusterPeer :=
  { p with
    image := some (images.resolve p.image p.client.imageSource)
    trustedPeers :=
      if p.consensus = .crdt && p.trustedPeers.isEmpty then ["*"] else p.trustedPeers
    logging := some (p.logging.getD .info)
    resources := p.resources.fill profile }

/-- A cluster peer has a storage peer. -/
def endpointRule (p : ClusterPeer) : Report :=
  if p.peerEndpoint = "" then [.required (field "peerEndpoint") ""]
  else
    when (!Format.isMultiaddr p.peerEndpoint)
      (.invalid (field "peerEndpoint") (.text p.peerEndpoint) "must be a valid multiaddress")

/-- A cluster peer shares a secret with its cluster. -/
def secretRequired (p : ClusterPeer) : Report :=
  when (p.clusterSecretName = "") (.required (field "clusterSecretName") "")

/-- An identity comes with its key. -/
def idRequiresKey (p : ClusterPeer) : Report :=
  when (p.id.isSome && p.privatekeySecretName.isNone)
    (.invalid (field "privatekeySecretName") (.text "") "must be provided if id is provided")

/-- A key comes with its identity. -/
def keyRequiresId (p : ClusterPeer) : Report :=
  when (p.privatekeySecretName.isSome && p.id.isNone)
    (.invalid (field "id") (.text "") "must be provided if privatekeySecretName is provided")

/-- Only a cluster without a leader has peers that it trusts. -/
def trustedPeersRule (p : ClusterPeer) : Report :=
  when (p.consensus ≠ .crdt && !p.trustedPeers.isEmpty)
    (.invalid (field "trustedPeers") (.text (Text.joinWith "," p.trustedPeers))
      "must be none if consensus is not crdt")

/-- The peers to meet the cluster through have addresses. -/
def bootstrapFormat (p : ClusterPeer) : Report :=
  p.bootstrapPeers.zipIdx.flatMap fun (peer, i) =>
    when (!Format.isMultiaddr peer)
      (.invalid ((field "bootstrapPeers").index i) (.text peer) "must be a valid multiaddress")

/-- What is wrong with a cluster peer by itself. -/
def problems (p : ClusterPeer) : Report :=
  endpointRule p ++ secretRequired p ++ idRequiresKey p ++ keyRequiresId p ++
  trustedPeersRule p ++ bootstrapFormat p ++
  clusterCapabilities.loggingRule p.client p.logging (field "logging") ++
  p.resources.problems (field "resources")

/-- What changed in a cluster peer that must not change. -/
def transitions (old new : ClusterPeer) : Report :=
  when (old.consensus ≠ new.consensus)
    (.immutable (field "consensus") (.text new.consensus.name)) ++
  when (old.id ≠ new.id) (.immutable (field "id") (.text (new.id.getD ""))) ++
  when (old.privatekeySecretName ≠ new.privatekeySecretName)
    (.immutable (field "privatekeySecretName") (.text (new.privatekeySecretName.getD ""))) ++
  when (old.clusterSecretName ≠ new.clusterSecretName)
    (.immutable (field "clusterSecretName") (.text new.clusterSecretName)) ++
  Resources.transitions old.resources new.resources (field "resources")

/-- The home directory of a cluster peer. -/
def home : String := "/home/ipfs-cluster"

/-- The arguments of a cluster peer. The level of logging concerns every command, and stands in
    front of the command. -/
def args (p : ClusterPeer) : List String :=
  Arguments.given "--loglevel" (p.logging.map Verbosity.name) ++ ["daemon"] ++
  Arguments.listed "--bootstrap" p.bootstrapPeers

/-- The identity of a peer and its key in the environment. -/
def identity (p : ClusterPeer) : List (String × EnvValue) :=
  match p.id, p.privatekeySecretName with
  | some id, some key =>
    [("CLUSTER_ID", .literal id), ("CLUSTER_PRIVATEKEY", .secret key "key")]
  | _, _ => []

/-- The environment of a cluster peer of the given name. -/
def env (name : String) (p : ClusterPeer) : Environment :=
  .ofList <|
    [("IPFS_CLUSTER_PATH", .literal (Home.data home)),
      ("CLUSTER_PEERNAME", .literal name),
      ("IPFS_CLUSTER_CONSENSUS", .literal p.consensus.name),
      ("IPFS_CLUSTER_PEER_ENDPOINT", .literal p.peerEndpoint),
      ("CLUSTER_SECRET", .secret p.clusterSecretName "secret"),
      ("IPFS_CLUSTER_TRUSTED_PEERS", .literal (Text.joinWith "," p.trustedPeers))] ++
    identity p

/-- How a cluster peer of the given name is started. -/
def launch (name : String) (p : ClusterPeer) : Launch where
  image := p.image.getD p.client.imageSource.builtIn
  command := ["ipfs-cluster-service"]
  args := args p
  env := env name p
  homeDir := home

/-- The workload of a cluster peer of the given name. -/
def workload (name : String) (p : ClusterPeer) : Workload :=
  .ofLaunch name .clusterPeer p.client.name "cluster-peer" (p.launch name) p.resources

end ClusterPeer

end Nodewright.Storage
