import Nodewright.Beacon.Client
import Nodewright.Codec.Choice
import Nodewright.Endpoint
import Nodewright.Resources

/-! # Beacon nodes

A beacon node follows the consensus chain of a public network, together with an execution node. -/

namespace Nodewright.Beacon

/-- A beacon node. -/
structure Node where
  client : Client
  image : Option String
  /-- The public network that the node follows. -/
  network : String
  /-- Where the execution node of the pair answers. -/
  executionEngineEndpoint : Option String
  jwtSecretName : Option String
  checkpointSyncUrl : Option String
  rest : Endpoint
  rpc : Endpoint
  grpc : Endpoint
  p2pPort : Option UInt16
  certSecretName : Option String
  hosts : List String
  corsDomains : List String
  logging : Option Verbosity
  resources : Resources
deriving DecidableEq

namespace Node

/-- A node of its members in written order. -/
def ofMembers (client : Client) (image : Option String) (network : String)
    (executionEngineEndpoint jwtSecretName checkpointSyncUrl : Option String)
    (rest : Bool) (restHost : Option String) (restPort : Option UInt16)
    (rpc : Bool) (rpcHost : Option String) (rpcPort : Option UInt16)
    (grpc : Bool) (grpcHost : Option String) (grpcPort : Option UInt16)
    (p2pPort : Option UInt16) (certSecretName : Option String) (hosts corsDomains : List String)
    (logging : Option Verbosity) (resources : Resources) : Node :=
  { client, image, network, executionEngineEndpoint, jwtSecretName, checkpointSyncUrl,
    rest := ⟨rest, restHost, restPort⟩
    rpc := ⟨rpc, rpcHost, rpcPort⟩
    grpc := ⟨grpc, grpcHost, grpcPort⟩
    p2pPort, certSecretName, hosts, corsDomains, logging, resources }

/-- A beacon node as JSON. -/
def codec : Codec Node :=
  (Fields.build ofMembers
    |>.member (.defaulted "client" (.client Client .beaconNode) .teku) client
    |>.member (.optional "image" .text) image
    |>.member (.required "network" .text) network
    |>.member (.optional "executionEngineEndpoint" .text) executionEngineEndpoint
    |>.member (.optional "jwtSecretName" .text) jwtSecretName
    |>.member (.optional "checkpointSyncUrl" .text) checkpointSyncUrl
    |>.member (.defaulted "rest" .flag false) (·.rest.enabled)
    |>.member (.optional "restHost" .text) (·.rest.host)
    |>.member (.optional "restPort" .word16) (·.rest.port)
    |>.member (.defaulted "rpc" .flag false) (·.rpc.enabled)
    |>.member (.optional "rpcHost" .text) (·.rpc.host)
    |>.member (.optional "rpcPort" .word16) (·.rpc.port)
    |>.member (.defaulted "grpc" .flag false) (·.grpc.enabled)
    |>.member (.optional "grpcHost" .text) (·.grpc.host)
    |>.member (.optional "grpcPort" .word16) (·.grpc.port)
    |>.member (.optional "p2pPort" .word16) p2pPort
    |>.member (.optional "certSecretName" .text) certSecretName
    |>.member (.listing "hosts" .text) hosts
    |>.member (.listing "corsDomains" .text) corsDomains
    |>.member (.optional "logging" (.choice Verbosity)) logging
    |>.member (.defaulted "resources" Resources.codec .none) resources).codec "BeaconNodeSpec"

/-- What a beacon node asks for by default. -/
def profile : ResourceProfile := ⟨"4", "8", "8Gi", "16Gi", "200Gi"⟩

/-- Whether a node offers some interface. -/
def servesApi (n : Node) : Bool := n.rest.enabled || n.rpc.enabled || n.grpc.enabled

/-- The origins that may reach the interfaces of a node if none are named: all of them. -/
def originsOr (n : Node) (origins : List String) : List String :=
  if n.servesApi && origins.isEmpty then ["*"] else origins

/-- The usual settings where none are given. -/
def fill (images : Image.Overrides) (n : Node) : Node :=
  { n with
    image := some (images.resolve n.image n.client.nodeImage)
    logging := some (n.logging.getD .info)
    p2pPort := some (n.p2pPort.getD 9000)
    rest := n.rest.fill 5051
    rpc := n.rpc.fill 4000
    grpc := n.grpc.fill 3500
    hosts := n.originsOr n.hosts
    corsDomains := n.originsOr n.corsDomains
    resources := n.resources.fill profile }

end Node

end Nodewright.Beacon
