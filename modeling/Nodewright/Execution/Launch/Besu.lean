import Nodewright.Arguments
import Nodewright.Execution.Network
import Nodewright.Home
import Nodewright.Workload

/-! # How Besu is started

Besu takes a flag and its value as two arguments, and the names of modes, levels and groups of
calls in capital letters. -/

namespace Nodewright.Execution.Besu

open Arguments

/-- The home directory of Besu. -/
def home : String := "/opt/besu"

/-- The chain that the node works on. -/
def chainArgs (c : Chain) : List String :=
  match c.join with
  | some network => ["--network", network.name]
  | none =>
    ["--genesis-file", Home.config home ++ "/genesis.json"] ++
      given "--network-id" (c.id.map fun id => toString id.toNat)

/-- How the node takes part in its network. -/
def networkArgs (n : Node) : List String :=
  when n.nodekeySecretName.isSome ["--node-private-key-file", Home.secret home "nodekey"] ++
  listed "--bootnodes" n.bootnodes ++
  given "--p2p-port" (n.p2pPort.map port) ++
  given "--sync-mode" (n.syncMode.map SyncMode.upperName)

/-- How the node mines. -/
def miningArgs (n : Node) : List String :=
  when n.miner ("--miner-enabled" :: given "--miner-coinbase" n.coinbase)

/-- The names of groups of calls. -/
def apiNames (apis : List Api) : List String := apis.map Api.upperName

/-- The interface for remote procedure calls. -/
def rpcArgs (n : Node) : List String :=
  when n.rpc.endpoint.enabled <|
    ["--rpc-http-enabled"] ++
    given "--rpc-http-host" n.rpc.endpoint.host ++
    given "--rpc-http-port" (n.rpc.endpoint.port.map port) ++
    listed "--rpc-http-api" (apiNames n.rpc.apis) ++
    listed "--rpc-http-cors-origins" n.corsDomains

/-- The interface for calls over a socket. -/
def wsArgs (n : Node) : List String :=
  when n.ws.endpoint.enabled <|
    ["--rpc-ws-enabled"] ++
    given "--rpc-ws-host" n.ws.endpoint.host ++
    given "--rpc-ws-port" (n.ws.endpoint.port.map port) ++
    listed "--rpc-ws-api" (apiNames n.ws.apis)

/-- The interface for graph queries. -/
def graphqlArgs (n : Node) : List String :=
  when n.graphql.enabled <|
    ["--graphql-http-enabled"] ++
    given "--graphql-http-host" n.graphql.host ++
    given "--graphql-http-port" (n.graphql.port.map port) ++
    listed "--graphql-http-cors-origins" n.corsDomains

/-- The arguments of Besu. -/
def args (c : Chain) (n : Node) : List String :=
  ["--data-path", Home.data home] ++ chainArgs c ++ networkArgs n ++ miningArgs n ++ rpcArgs n ++
  wsArgs n ++ graphqlArgs n ++ listed "--host-allowlist" n.hosts ++
  given "--logging" (n.logging.map Verbosity.upperName)

/-- How Besu is started. -/
def launch (c : Chain) (n : Node) : Launch where
  image := n.image.getD Client.besu.imageSource.builtIn
  command := []
  args := args c n
  env := .empty
  homeDir := home

end Nodewright.Execution.Besu
