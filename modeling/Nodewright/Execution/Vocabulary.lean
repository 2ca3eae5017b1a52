import Nodewright.Capability
import Nodewright.Codec.Choice
import Nodewright.Image.Overrides

/-! # The words of execution networks

Clients with their capabilities and images, consensus rules, public networks, ways to synchronise,
and the interfaces of the remote procedure calls. -/

namespace Nodewright.Execution

/-- A program that runs an execution node. -/
inductive Client where
  | besu
  | geth
  | parity
deriving DecidableEq, Repr

/-- How a network agrees on its blocks. -/
inductive Consensus where
  | proofOfWork
  | proofOfAuthority
  | istanbulBft
deriving DecidableEq, Repr

/-- A public network that a node can join. -/
inductive PublicNetwork where
  | mainnet
  | ropsten
  | rinkeby
  | goerli
  | sepolia
  | classic
  | mordor
  | kotti
deriving DecidableEq, Repr

/-- How a node catches up with its network. -/
inductive SyncMode where
  | fast
  | full
  | light
deriving DecidableEq, Repr

/-- A group of remote procedure calls. -/
inductive Api where
  | admin
  | clique
  | debug
  | eea
  | eth
  | ibft
  | miner
  | net
  | perm
  | plugins
  | priv
  | txpool
  | web3
deriving DecidableEq, Repr

namespace Client

/-- The name of a client. -/
def name : Client → String
  | besu => "besu"
  | geth => "geth"
  | parity => "parity"

instance : Named Client where
  all := [besu, geth, parity]
  name := name
  mem_all a := by cases a <;> simp
  name_injective a b := by cases a <;> cases b <;> simp [name]

/-- The images of the clients. -/
def imageSource : Client → Image.Source
  | besu => ⟨"BESU_IMAGE", "hyperledger/besu:22.7.0"⟩
  | geth => ⟨"GETH_IMAGE", "ethereum/client-go:v1.10.23"⟩
  | parity => ⟨"PARITY_IMAGE", "openethereum/openethereum:v3.3.5"⟩

end Client

/-- What each client can do. -/
def capabilities : Registry Client where
  entries := [
    (.besu, [.rpc, .ws, .graphql, .mining, .proofOfWork, .proofOfAuthority, .istanbulBft,
      .fixedDifficulty, .logging .off, .logging .fatal, .logging .error, .logging .warn,
      .logging .info, .logging .debug, .logging .trace, .logging .all]),
    (.geth, [.rpc, .ws, .graphql, .mining, .importAccount, .proofOfWork, .proofOfAuthority,
      .lightSync, .logging .off, .logging .error, .logging .warn, .logging .info, .logging .debug,
      .logging .all]),
    (.parity, [.rpc, .ws, .importAccount, .proofOfWork, .proofOfAuthority, .logging .error,
      .logging .warn, .logging .info, .logging .debug, .logging .trace])]

namespace Consensus

/-- The name of a consensus rule. -/
def name : Consensus → String
  | proofOfWork => "pow"
  | proofOfAuthority => "poa"
  | istanbulBft => "ibft2"

instance : Named Consensus where
  all := [proofOfWork, proofOfAuthority, istanbulBft]
  name := name
  mem_all a := by cases a <;> simp
  name_injective a b := by cases a <;> cases b <;> simp [name]

/-- What a client must be able to do to follow a consensus rule. -/
def feature : Consensus → Feature
  | proofOfWork => .proofOfWork
  | proofOfAuthority => .proofOfAuthority
  | istanbulBft => .istanbulBft

end Consensus

namespace PublicNetwork

/-- The name of a network. -/
def name : PublicNetwork → String
  | mainnet => "mainnet"
  | ropsten => "ropsten"
  | rinkeby => "rinkeby"
  | goerli => "goerli"
  | sepolia => "sepolia"
  | classic => "classic"
  | mordor => "mordor"
  | kotti => "kotti"

instance : Named PublicNetwork where
  all := [mainnet, ropsten, rinkeby, goerli, sepolia, classic, mordor, kotti]
  name := name
  mem_all a := by cases a <;> simp
  name_injective a b := by cases a <;> cases b <;> simp [name]

end PublicNetwork

namespace SyncMode

/-- The name of a way to synchronise. -/
def name : SyncMode → String
  | fast => "fast"
  | full => "full"
  | light => "light"

/-- That name in capital letters. -/
def upperName : SyncMode → String
  | fast => "FAST"
  | full => "FULL"
  | light => "LIGHT"

instance : Named SyncMode where
  all := [fast, full, light]
  name := name
  mem_all a := by cases a <;> simp
  name_injective a b := by cases a <;> cases b <;> simp [name]

end SyncMode

namespace Api

/-- The name of a group of calls. -/
def name : Api → String
  | admin => "admin"
  | clique => "clique"
  | debug => "debug"
  | eea => "eea"
  | eth => "eth"
  | ibft => "ibft"
  | miner => "miner"
  | net => "net"
  | perm => "perm"
  | plugins => "plugins"
  | priv => "priv"
  | txpool => "txpool"
  | web3 => "web3"

/-- That name in capital letters. -/
def upperName : Api → String
  | admin => "ADMIN"
  | clique => "CLIQUE"
  | debug => "DEBUG"
  | eea => "EEA"
  | eth => "ETH"
  | ibft => "IBFT"
  | miner => "MINER"
  | net => "NET"
  | perm => "PERM"
  | plugins => "PLUGINS"
  | priv => "PRIV"
  | txpool => "TXPOOL"
  | web3 => "WEB3"

instance : Named Api where
  all := [admin, clique, debug, eea, eth, ibft, miner, net, perm, plugins, priv, txpool, web3]
  name := name
  mem_all a := by cases a <;> simp
  name_injective a b := by cases a <;> cases b <;> simp [name]

end Api

end Nodewright.Execution
