import Nodewright.Arguments
import Nodewright.Execution.Network
import Nodewright.Home
import Nodewright.Workload

/-! # How Parity is started

Parity offers its interfaces unless it is told not to, has its own names for the wildcard host and
the main network, and takes its key from the environment. -/

namespace Nodewright.Execution.Parity

open Arguments

/-- The home directory of Parity. -/
def home : String := "/home/openethereum"

/-- The variable that holds the key of the node. -/
def nodeKeyVariable : String := "NODE_KEY"

/-- The name of a host to listen on. -/
def hostName (host : String) : String := if host = Endpoint.wildcard then "all" else host

/-- The name of a public network. -/
def networkName : PublicNetwork → String
  | .mainnet => "foundation"
  | network => network.name

/-- The chain that the node works on. -/
def chainArgs (c : Chain) : List String :=
  match c.join with
  | some network => ["--chain", networkName network]
  | none =>
    ["--chain", Home.config home ++ "/genesis.json"] ++
      given "--network-id" (c.id.map fun id => toString id.toNat)

/-- How the node takes part in its network. -/
def networkArgs (n : Node) : List String :=
  when n.nodekeySecretName.isSome ["--node-key", "$(" ++ nodeKeyVariable ++ ")"] ++
  listed "--bootnodes" n.bootnodes ++
  given "--port" (n.p2pPort.map port) ++
  when (n.syncMode = some .full) ["--no-warp"]

/-- The account that the node works for, and how it is unlocked. -/
def accountArgs (n : Node) : List String :=
  match n.coinbase, n.importedAccount with
  | some coinbase, some _ =>
    ["--author", coinbase, "--unlock", coinbase, "--password",
      Home.secret home "account.password"]
  | _, _ => []

/-- The names of groups of calls. -/
def apiNames (apis : List Api) : List String := apis.map Api.name

/-- The interface for remote procedure calls. -/
def rpcArgs (n : Node) : List String :=
  if n.rpc.endpoint.enabled then
    given "--jsonrpc-interface" (n.rpc.endpoint.host.map hostName) ++
    given "--jsonrpc-port" (n.rpc.endpoint.port.map port) ++
    listed "--jsonrpc-apis" (apiNames n.rpc.apis) ++
    listed "--jsonrpc-cors" n.corsDomains ++
    listed "--jsonrpc-hosts" n.hosts
  else ["--no-jsonrpc"]

/-- The interface for calls over a socket. -/
def wsArgs (n : Node) : List String :=
  if n.ws.endpoint.enabled then
    given "--ws-interface" (n.ws.endpoint.host.map hostName) ++
    given "--ws-port" (n.ws.endpoint.port.map port) ++
    listed "--ws-apis" (apiNames n.ws.apis) ++
    listed "--ws-origins" n.corsDomains ++
    listed "--ws-hosts" n.hosts
  else ["--no-ws"]

/-- The arguments of Parity. -/
def args (c : Chain) (n : Node) : List String :=
  ["--base-path", Home.data home] ++ chainArgs c ++ networkArgs n ++ accountArgs n ++ rpcArgs n ++
  wsArgs n ++ given "--logging" (n.logging.map Verbosity.name)

/-- The environment of Parity. -/
def env (n : Node) : Environment :=
  .ofList (Environment.given nodeKeyVariable
    (n.nodekeySecretName.map fun name => .secret name "key"))

/-- How Parity is started. -/
def launch (c : Chain) (n : Node) : Launch where
  image := n.image.getD Client.parity.imageSource.builtIn
  command := []
  args := args c n
  env := env n
  homeDir := home

end Nodewright.Execution.Parity
