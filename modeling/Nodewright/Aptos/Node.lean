import Nodewright.Arguments
import Nodewright.Capability
import Nodewright.Codec.Choice
import Nodewright.Endpoint
import Nodewright.Home
import Nodewright.Image.Overrides
import Nodewright.Workload

/-! # Nodes of the Aptos chain

A node reads its configuration from a file, which is made from its environment. -/

namespace Nodewright.Aptos

open FieldPath (field)
open Report (when)

/-- A program that runs an Aptos node. -/
inductive Client where
  | aptosCore
deriving DecidableEq, Repr

/-- A public network of the chain. -/
inductive Network where
  | devnet
  | testnet
deriving DecidableEq, Repr

namespace Client

/-- The name of a client. -/
def name : Client → String
  | aptosCore => "aptos-core"

instance : Named Client where
  all := [aptosCore]
  name := name
  mem_all a := by cases a; simp
  name_injective a b := by cases a; cases b; simp

/-- The image of an Aptos node. -/
def imageSource : Client → Image.Source
  | aptosCore => ⟨"APTOS_CORE_IMAGE", "aptoslabs/validator:testnet_8e3ad2fc"⟩

end Client

namespace Network

/-- The name of a network. -/
def name : Network → String
  | devnet => "devnet"
  | testnet => "testnet"

instance : Named Network where
  all := [devnet, testnet]
  name := name
  mem_all a := by cases a <;> simp
  name_injective a b := by cases a <;> cases b <;> simp [name]

end Network

/-- What the client can do. -/
def capabilities : Registry Client where
  entries := [
    (.aptosCore, [.logging .error, .logging .warn, .logging .info, .logging .debug,
      .logging .trace])]

/-- An Aptos node. -/
structure Node where
  client : Client
  image : Option String
  network : Network
  /-- Whether the node takes part in the consensus. -/
  validator : Bool
  /-- A checkpoint that the chain is held against. -/
  waypoint : String
  /-- Where the first block is kept. -/
  genesisConfigmapName : String
  nodePrivateKeySecretName : Option String
  peerId : Option String
  api : Endpoint
  p2pPort : Option UInt16
  logging : Option Verbosity
  resources : Resources
deriving DecidableEq

namespace Node

/-- A node of its members in written order. -/
def ofMembers (client : Client) (image : Option String) (network : Network) (validator : Bool)
    (waypoint genesisConfigmapName : String) (nodePrivateKeySecretName peerId : Option String)
    (api : Bool) (apiHost : Option String) (apiPort : Option UInt16) (p2pPort : Option UInt16)
    (logging : Option Verbosity) (resources : Resources) : Node :=
  { client, image, network, validator, waypoint, genesisConfigmapName, nodePrivateKeySecretName,
    peerId, api := ⟨api, apiHost, apiPort⟩, p2pPort, logging, resources }

/-- An Aptos node as JSON. -/
def codec : Codec Node :=
  (Fields.build ofMembers
    |>.member (.defaulted "client" (.client Client .aptosNode) .aptosCore) client
    |>.member (.optional "image" .text) image
    |>.member (.required "network" (.choice Network)) network
    |>.member (.defaulted "validator" .flag false) validator
    |>.member (.defaulted "waypoint" .text "") waypoint
    |>.member (.defaulted "genesisConfigmapName" .text "") genesisConfigmapName
    |>.member (.optional "nodePrivateKeySecretName" .text) nodePrivateKeySecretName
    |>.member (.optional "peerId" .text) peerId
    |>.member (.defaulted "api" .flag false) (·.api.enabled)
    |>.member (.optional "apiHost" .text) (·.api.host)
    |>.member (.optional "apiPort" .word16) (·.api.port)
    |>.member (.optional "p2pPort" .word16) p2pPort
    |>.member (.optional "logging" (.choice Verbosity)) logging
    |>.member (.defaulted "resources" Resources.codec .none) resources).codec "NodeSpec"

/-- What an Aptos node asks for by default. -/
def profile : ResourceProfile := ⟨"4", "8", "8Gi", "16Gi", "250Gi"⟩

/-- The usual settings where none are given. -/
def fill (images : Image.Overrides) (n : Node) : Node :=
  { n with
    image := some (images.resolve n.image n.client.imageSource)
    api := n.api.fill 8080
    p2pPort := some (n.p2pPort.getD 6180)
    logging := some (n.logging.getD .info)
    resources := n.resources.fill profile }

/-- A node has a checkpoint. -/
def waypointRequired (n : Node) : Report :=
  when (n.waypoint = "") (.required (field "waypoint") "")

/-- A node has a first block. -/
def genesisRequired (n : Node) : Report :=
  when (n.genesisConfigmapName = "") (.required (field "genesisConfigmapName") "")

/-- An identity comes with its key. -/
def peerIdRequiresKey (n : Node) : Report :=
  when (n.peerId.isSome && n.nodePrivateKeySecretName.isNone)
    (.invalid (field "nodePrivateKeySecretName") (.text "")
      "must provide nodePrivateKeySecretName if peerId is provided")

/-- A key comes with its identity. -/
def keyRequiresPeerId (n : Node) : Report :=
  when (n.nodePrivateKeySecretName.isSome && n.peerId.isNone)
    (.invalid (field "peerId") (.text "")
      "must provide peerId if nodePrivateKeySecretName is provided")

/-- What is wrong with an Aptos node by itself. -/
def problems (n : Node) : Report :=
  waypointRequired n ++ genesisRequired n ++ peerIdRequiresKey n ++ keyRequiresPeerId n ++
  capabilities.loggingRule n.client n.logging (field "logging") ++
  n.resources.problems (field "resources")

/-- What changed in an Aptos node that must not change. -/
def transitions (old new : Node) : Report :=
  when (old.network ≠ new.network) (.immutable (field "network") (.text new.network.name)) ++
  Resources.transitions old.resources new.resources (field "resources")

/-- The home directory of an Aptos node. -/
def home : String := "/opt/aptos"

/-- What part the node plays in the chain. -/
def role (n : Node) : String := if n.validator then "validator" else "full_node"

/-- Where the interface of the node listens. -/
def apiVariables (n : Node) : List (String × EnvValue) :=
  match n.api with
  | ⟨true, some host, some port⟩ =>
    [("APTOS_API_ADDRESS", .literal (host ++ ":" ++ Arguments.port port))]
  | _ => []

/-- The identity of a node and its key in the environment. -/
def identity (n : Node) : List (String × EnvValue) :=
  match n.peerId, n.nodePrivateKeySecretName with
  | some peerId, some key =>
    [("APTOS_PEER_ID", .literal peerId), ("APTOS_NODE_PRIVATE_KEY", .secret key "key")]
  | _, _ => []

/-- The environment of an Aptos node. -/
def env (n : Node) : Environment :=
  .ofList <|
    [("APTOS_NODE_ROLE", .literal n.role),
      ("APTOS_NETWORK", .literal n.network.name),
      ("APTOS_DATA_DIR", .literal (Home.data home)),
      ("APTOS_WAYPOINT", .literal n.waypoint),
      ("APTOS_GENESIS_PATH", .literal (Home.config home ++ "/genesis.blob"))] ++
    apiVariables n ++
    Environment.given "APTOS_P2P_PORT" (n.p2pPort.map fun p => .literal (Arguments.port p)) ++
    identity n ++
    Environment.given "RUST_LOG" (n.logging.map fun level => .literal level.name)

/-- How an Aptos node is started. -/
def launch (n : Node) : Launch where
  image := n.image.getD n.client.imageSource.builtIn
  command := ["aptos-node"]
  args := ["--config", Home.config home ++ "/config.yaml"]
  env := env n
  homeDir := home

/-- The workload of an Aptos node of the given name. -/
def workload (name : String) (n : Node) : Workload :=
  .ofLaunch name .aptosNode n.client.name n.role n.launch n.resources

end Node

end Nodewright.Aptos
