import Nodewright.Arguments
import Nodewright.Execution.Network
import Nodewright.Home
import Nodewright.Workload

/-! # How Geth is started

Geth joins the main network unless it is told otherwise, answers graph queries on its interface for
remote procedure calls, and counts its levels of logging. -/

namespace Nodewright.Execution.Geth

open Arguments

/-- The home directory of Geth. -/
def home : String := "/home/ethereum"

/-- The number of a level of logging. -/
def level : Verbosity → String
  | .off => "0"
  | .error => "1"
  | .warn => "2"
  | .debug => "4"
  | .all => "5"
  | _ => "3"

/-- The chain that the node works on. -/
def chainArgs (c : Chain) : List String :=
  match c.join with
  | some .mainnet => []
  | some network => ["--" ++ network.name]
  | none => given "--networkid" (c.id.map fun id => toString id.toNat)

/-- How the node takes part in its network. -/
def networkArgs (n : Node) : List String :=
  when n.nodekeySecretName.isSome ["--nodekey", Home.secret home "nodekey"] ++
  listed "--bootnodes" n.bootnodes ++
  given "--port" (n.p2pPort.map port) ++
  given "--syncmode" (n.syncMode.map SyncMode.name)

/-- How an imported account is unlocked. -/
def unlockArgs (coinbase : String) : List String :=
  ["--unlock", coinbase, "--password", Home.secret home "account.password"]

/-- The account that the node mines for. -/
def coinbaseArgs (n : Node) : List String :=
  match n.coinbase with
  | some coinbase =>
    ["--miner.etherbase", coinbase] ++ when n.importedAccount.isSome (unlockArgs coinbase)
  | none => []

/-- How the node mines. -/
def miningArgs (n : Node) : List String := when n.miner ("--mine" :: coinbaseArgs n)

/-- The names of groups of calls. -/
def apiNames (apis : List Api) : List String := apis.map Api.name

/-- The interface for remote procedure calls. -/
def rpcArgs (n : Node) : List String :=
  when n.rpc.endpoint.enabled <|
    ["--http"] ++
    given "--http.addr" n.rpc.endpoint.host ++
    given "--http.port" (n.rpc.endpoint.port.map port) ++
    listed "--http.api" (apiNames n.rpc.apis) ++
    listed "--http.corsdomain" n.corsDomains ++
    listed "--http.vhosts" n.hosts

/-- The interface for calls over a socket. -/
def wsArgs (n : Node) : List String :=
  when n.ws.endpoint.enabled <|
    ["--ws"] ++
    given "--ws.addr" n.ws.endpoint.host ++
    given "--ws.port" (n.ws.endpoint.port.map port) ++
    listed "--ws.api" (apiNames n.ws.apis) ++
    listed "--ws.origins" n.corsDomains

/-- The interface for graph queries. -/
def graphqlArgs (n : Node) : List String :=
  when n.graphql.enabled <|
    ["--graphql"] ++
    listed "--graphql.corsdomain" n.corsDomains ++
    listed "--graphql.vhosts" n.hosts

/-- The arguments of Geth. -/
def args (c : Chain) (n : Node) : List String :=
  ["--datadir", Home.data home] ++ chainArgs c ++ networkArgs n ++ miningArgs n ++ rpcArgs n ++
  wsArgs n ++ graphqlArgs n ++ given "--verbosity" (n.logging.map level)

/-- How Geth is started. -/
def launch (c : Chain) (n : Node) : Launch where
  image := n.image.getD Client.geth.imageSource.builtIn
  command := []
  args := args c n
  env := .empty
  homeDir := home

end Nodewright.Execution.Geth
