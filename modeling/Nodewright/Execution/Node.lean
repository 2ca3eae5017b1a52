import Nodewright.Endpoint
import Nodewright.Execution.Vocabulary
import Nodewright.Resources

/-! # Nodes of an execution network

`Node.fill` gives a node the usual settings where none are given. -/

namespace Nodewright.Execution

/-- An account whose keys are kept as secrets. -/
structure ImportedAccount where
  privateKeySecretName : String
  passwordSecretName : String
deriving DecidableEq

/-- An interface for remote procedure calls, and the groups of calls that it answers. -/
structure CallEndpoint where
  endpoint : Endpoint
  apis : List Api
deriving DecidableEq

/-- A node of an execution network. -/
structure Node where
  name : String
  client : Client
  image : Option String
  bootnode : Bool
  nodekeySecretName : Option String
  /-- Nodes to meet the network through. -/
  bootnodes : List String
  miner : Bool
  coinbase : Option String
  importedAccount : Option ImportedAccount
  syncMode : Option SyncMode
  p2pPort : Option UInt16
  rpc : CallEndpoint
  ws : CallEndpoint
  graphql : Endpoint
  /-- Hosts that may reach the interfaces. -/
  hosts : List String
  corsDomains : List String
  logging : Option Verbosity
  resources : Resources
deriving DecidableEq

namespace ImportedAccount

/-- An imported account as JSON. -/
def codec : Codec ImportedAccount :=
  (Fields.build mk
    |>.member (.required "privateKeySecretName" .text) privateKeySecretName
    |>.member (.required "passwordSecretName" .text) passwordSecretName).codec "ImportedAccount"

end ImportedAccount

namespace CallEndpoint

/-- The groups of calls that an interface answers if none are named. -/
def usualApis : List Api := [.web3, .eth, .net]

/-- The usual settings of an interface that is offered. -/
def fill (port : UInt16) (e : CallEndpoint) : CallEndpoint where
  endpoint := e.endpoint.fill port
  apis := if e.endpoint.enabled && e.apis.isEmpty then usualApis else e.apis

end CallEndpoint

namespace Node

/-- A node of its members in written order. -/
def ofMembers (name : String) (client : Client) (image : Option String) (bootnode : Bool)
    (nodekeySecretName : Option String) (bootnodes : List String) (miner : Bool)
    (coinbase : Option String) (importedAccount : Option ImportedAccount)
    (syncMode : Option SyncMode) (p2pPort : Option UInt16)
    (rpc : Bool) (rpcHost : Option String) (rpcPort : Option UInt16) (rpcApis : List Api)
    (ws : Bool) (wsHost : Option String) (wsPort : Option UInt16) (wsApis : List Api)
    (graphql : Bool) (graphqlHost : Option String) (graphqlPort : Option UInt16)
    (hosts corsDomains : List String) (logging : Option Verbosity) (resources : Resources) :
    Node :=
  { name, client, image, bootnode, nodekeySecretName, bootnodes, miner, coinbase,
    importedAccount, syncMode, p2pPort,
    rpc := ⟨⟨rpc, rpcHost, rpcPort⟩, rpcApis⟩
    ws := ⟨⟨ws, wsHost, wsPort⟩, wsApis⟩
    graphql := ⟨graphql, graphqlHost, graphqlPort⟩
    hosts, corsDomains, logging, resources }

/-- A node as JSON. -/
def codec : Codec Node :=
  (Fields.build ofMembers
    |>.member (.required "name" .text) name
    |>.member (.defaulted "client" (.client Client .network) .besu) client
    |>.member (.optional "image" .text) image
    |>.member (.defaulted "bootnode" .flag false) bootnode
    |>.member (.optional "nodekeySecretName" .text) nodekeySecretName
    |>.member (.listing "bootnodes" .text) bootnodes
    |>.member (.defaulted "miner" .flag false) miner
    |>.member (.optional "coinbase" .text) coinbase
    |>.member (.optional "import" ImportedAccount.codec) importedAccount
    |>.member (.optional "syncMode" (.choice SyncMode)) syncMode
    |>.member (.optional "p2pPort" .word16) p2pPort
    |>.member (.defaulted "rpc" .flag false) (·.rpc.endpoint.enabled)
    |>.member (.optional "rpcHost" .text) (·.rpc.endpoint.host)
    |>.member (.optional "rpcPort" .word16) (·.rpc.endpoint.port)
    |>.member (.listing "rpcAPI" (.choice Api)) (·.rpc.apis)
    |>.member (.defaulted "ws" .flag false) (·.ws.endpoint.enabled)
    |>.member (.optional "wsHost" .text) (·.ws.endpoint.host)
    |>.member (.optional "wsPort" .word16) (·.ws.endpoint.port)
    |>.member (.listing "wsAPI" (.choice Api)) (·.ws.apis)
    |>.member (.defaulted "graphql" .flag false) (·.graphql.enabled)
    |>.member (.optional "graphqlHost" .text) (·.graphql.host)
    |>.member (.optional "graphqlPort" .word16) (·.graphql.port)
    |>.member (.listing "hosts" .text) hosts
    |>.member (.listing "corsDomains" .text) corsDomains
    |>.member (.optional "logging" (.choice Verbosity)) logging
    |>.member (.defaulted "resources" Resources.codec .none) resources).codec "NodeSpec"

/-- What a node asks for by default. -/
def profile : ResourceProfile := ⟨"2", "3", "4Gi", "6Gi", "100Gi"⟩

/-- Whether a node offers some interface. -/
def servesApi (n : Node) : Bool :=
  n.rpc.endpoint.enabled || n.ws.endpoint.enabled || n.graphql.enabled

/-- The origins that may reach the interfaces of a node if none are named: all of them. -/
def originsOr (n : Node) (origins : List String) : List String :=
  if n.servesApi && origins.isEmpty then ["*"] else origins

/-- The usual settings where none are given. -/
def fill (images : Image.Overrides) (n : Node) : Node :=
  { n with
    image := some (images.resolve n.image n.client.imageSource)
    logging := some (n.logging.getD .info)
    syncMode := some (n.syncMode.getD .fast)
    p2pPort := some (n.p2pPort.getD 30303)
    rpc := n.rpc.fill 8545
    ws := n.ws.fill 8546
    graphql := n.graphql.fill 8547
    hosts := n.originsOr n.hosts
    corsDomains := n.originsOr n.corsDomains
    resources := n.resources.fill profile }

/-- What part a node plays in its network. -/
def role (n : Node) : String :=
  if n.bootnode then "bootnode" else if n.miner then "miner" else "node"

end Node

end Nodewright.Execution
