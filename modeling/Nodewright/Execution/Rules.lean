import Nodewright.Execution.Network
import Nodewright.Format

/-! # Rules of execution networks

The rules of a network stand in front of those of its nodes, which are checked node by node. Every
rule reports all that it finds, whatever the other rules say.

* `Network.problems`   what is wrong with a network by itself
* `Network.transitions`   what changed in a network that must not change -/

namespace Nodewright.Execution

open FieldPath (field)
open Report (when ofSome)

/-- A node of a network. -/
def nodeField (i : Nat) : FieldPath := (field "nodes").index i

namespace Chain

/-- A network that joins a chain has no first block of its own. -/
def joinExcludesGenesis (c : Chain) : Report :=
  ofSome c.join fun join =>
    when c.genesis.isSome
      (.invalid (field "join") (.text join.name) "must be none if spec.genesis is specified")

/-- A network joins a chain or has a first block. -/
def joinOrGenesis (c : Chain) : Report :=
  when (c.join.isNone && c.genesis.isNone)
    (.invalid (field "genesis") (.text "") "must be specified if spec.join is none")

/-- A network that joins a chain follows the consensus rule of that chain. -/
def joinExcludesConsensus (c : Chain) : Report :=
  ofSome c.consensus fun consensus =>
    when c.join.isSome
      (.invalid (field "consensus") (.text consensus.name) "must be none while joining a network")

/-- A network that joins a chain has the identity of that chain. -/
def joinExcludesId (c : Chain) : Report :=
  ofSome c.id fun id =>
    when c.join.isSome
      (.invalid (field "id") (.text (toString id.toNat)) "must be none if spec.join is provided")

/-- A network with a first block has an identity. -/
def genesisRequiresId (c : Chain) : Report :=
  when (c.genesis.isSome && c.id.isNone)
    (.invalid (field "id") (.text "") "must be specified if spec.join is none")

/-- A network with a first block has a consensus rule. -/
def genesisRequiresConsensus (c : Chain) : Report :=
  when (c.genesis.isSome && c.consensus.isNone)
    (.invalid (field "consensus") (.text "") "must be specified if spec.genesis is provided")

/-- The parameters of a consensus rule are given only under that rule. -/
def blockMatches (consensus expected : Consensus) (block : String) (present : Bool) : Report :=
  when (present && consensus ≠ expected)
    (.invalid (field "consensus") (.text consensus.name)
      ("must be " ++ expected.name ++ " if spec.genesis." ++ block ++ " is specified"))

/-- The parameters in the first block are those of the consensus rule. -/
def consensusMatchesGenesis (c : Chain) : Report :=
  ofSome c.genesis fun g =>
    ofSome c.consensus fun consensus =>
      blockMatches consensus .proofOfAuthority "clique" g.clique.isSome ++
      blockMatches consensus .istanbulBft "ibft2" g.ibft2.isSome ++
      blockMatches consensus .proofOfWork "ethash" g.ethash.isSome

/-- No network of its own uses the chain of the main network. -/
def mainnetReserved (c : Chain) : Report :=
  ofSome c.genesis fun g =>
    when (g.chainId = Genesis.mainnetChainId)
      (.invalid ((field "genesis").child "chainId") (.text (toString g.chainId.toNat))
        "can't use chain id of mainnet network to avoid tx replay")

/-- No fork starts before a canonically earlier one. -/
def forkOrder (c : Chain) : Report :=
  ofSome (c.genesis.bind Genesis.forks) fun forks =>
    forks.problems ((field "genesis").child "forks")

/-- The rules of a chain, in the order of their reports. -/
def rules : List (Chain → Report) :=
  [joinExcludesGenesis, joinOrGenesis, joinExcludesConsensus, joinExcludesId, genesisRequiresId,
    genesisRequiresConsensus, consensusMatchesGenesis, mainnetReserved, forkOrder]

/-- What is wrong with a chain. -/
def problems (c : Chain) : Report := rules.flatMap fun rule => rule c

end Chain

namespace Node

/-- Whether the client of a node can do something. -/
def supports (n : Node) (feature : Feature) : Bool := capabilities.supports n.client feature

/-- The client of a node is not the right one. -/
def wrongClient (n : Node) (path : FieldPath) (detail : String) : Violation :=
  .invalid (path.child "client") (.text n.client.name) detail

/-- A boot node has a key of its own. -/
def bootnodeRequiresNodekey (_ : Chain) (n : Node) (path : FieldPath) : Report :=
  when (n.bootnode && n.nodekeySecretName.isNone)
    (.invalid (path.child "nodekey") (.text "")
      "must provide nodekeySecretName if bootnode is true")

/-- A miner has an account to be paid to. -/
def minerRequiresCoinbase (_ : Chain) (n : Node) (path : FieldPath) : Report :=
  when (n.miner && n.coinbase.isNone)
    (.invalid (path.child "coinbase") (.text "") "must provide coinbase if miner is true")

/-- Only a miner has an account to be paid to. -/
def coinbaseRequiresMiner (_ : Chain) (n : Node) (path : FieldPath) : Report :=
  when (n.coinbase.isSome && !n.miner)
    (.invalid (path.child "miner") (.flag false) "must set miner to true if coinbase is provided")

/-- The account to be paid to is an account. -/
def coinbaseFormat (_ : Chain) (n : Node) (path : FieldPath) : Report :=
  ofSome n.coinbase fun coinbase =>
    when (!Format.isAccountAddress coinbase)
      (.invalid (path.child "coinbase") (.text coinbase) "must be a valid ethereum address")

/-- The client follows the consensus rule of the network. -/
def consensusSupport (c : Chain) (n : Node) (path : FieldPath) : Report :=
  ofSome c.consensus fun consensus =>
    when (!n.supports consensus.feature)
      (n.wrongClient path ("client doesn't support " ++ consensus.name ++ " consensus"))

/-- The client can keep the difficulty fixed, if the network does. -/
def fixedDifficultySupport (c : Chain) (n : Node) (path : FieldPath) : Report :=
  when ((c.genesis.bind Genesis.fixedDifficulty).isSome && !n.supports .fixedDifficulty)
    (n.wrongClient path "client doesn't support fixed difficulty pow networks")

/-- The client of a miner can mine. -/
def miningSupport (_ : Chain) (n : Node) (path : FieldPath) : Report :=
  when (n.miner && !n.supports .mining)
    (n.wrongClient path "client doesn't support mining")

/-- The client can import an account, if there is one to import. -/
def importSupport (_ : Chain) (n : Node) (path : FieldPath) : Report :=
  when (n.importedAccount.isSome && !n.supports .importAccount)
    (n.wrongClient path
      ("must be " ++ capabilities.choice .importAccount ++ " if import is provided"))

/-- A client that can import accounts mines only for an imported one. -/
def miningRequiresImport (_ : Chain) (n : Node) (path : FieldPath) : Report :=
  when (n.miner && n.coinbase.isSome && n.importedAccount.isNone && n.supports .mining &&
      n.supports .importAccount)
    (.invalid (path.child "import") (.text "") "must import coinbase account")

/-- A node with an imported account offers no interface. -/
def importExcludesEndpoints (_ : Chain) (n : Node) (path : FieldPath) : Report :=
  let closed (name : String) (e : Endpoint) : Report :=
    when (n.importedAccount.isSome && e.enabled)
      (.invalid (path.child name) (.flag true) "must be false if import is provided")
  closed "rpc" n.rpc.endpoint ++ closed "ws" n.ws.endpoint ++ closed "graphql" n.graphql

/-- The client can synchronise lightly, if it shall. -/
def lightSyncSupport (_ : Chain) (n : Node) (path : FieldPath) : Report :=
  when (n.syncMode = some .light && !n.supports .lightSync)
    (n.wrongClient path
      ("must be " ++ capabilities.choice .lightSync ++ " if syncMode is light"))

/-- The client can answer graph queries, if it shall. -/
def graphqlSupport (_ : Chain) (n : Node) (path : FieldPath) : Report :=
  when (n.graphql.enabled && !n.supports .graphql)
    (n.wrongClient path "client doesn't support graphQL")

/-- Geth answers graph queries on the interface for remote procedure calls. -/
def gethGraphqlRequiresRpc (_ : Chain) (n : Node) (path : FieldPath) : Report :=
  when (n.client = .geth && n.graphql.enabled && !n.rpc.endpoint.enabled)
    (.invalid (path.child "rpc") (.flag false)
      "must enable rpc if client is geth and graphql is enabled")

/-- The client knows its level of logging. -/
def loggingSupport (_ : Chain) (n : Node) (path : FieldPath) : Report :=
  capabilities.loggingRule n.client n.logging (path.child "logging")

/-- The nodes to meet the network through have addresses. -/
def bootnodeUrls (_ : Chain) (n : Node) (path : FieldPath) : Report :=
  n.bootnodes.zipIdx.flatMap fun (url, j) =>
    when (!Format.isEnode url)
      (.invalid ((path.child "bootnodes").index j) (.text url) "must be a valid enode url")

/-- The resources of a node are in order. -/
def resourcesInOrder (_ : Chain) (n : Node) (path : FieldPath) : Report :=
  n.resources.problems (path.child "resources")

/-- The rules of a node, in the order of their reports. -/
def rules : List (Chain → Node → FieldPath → Report) :=
  [bootnodeRequiresNodekey, minerRequiresCoinbase, coinbaseRequiresMiner, coinbaseFormat,
    consensusSupport, fixedDifficultySupport, miningSupport, importSupport, miningRequiresImport,
    importExcludesEndpoints, lightSyncSupport, graphqlSupport, gethGraphqlRequiresRpc,
    loggingSupport, bootnodeUrls, resourcesInOrder]

/-- What is wrong with a node of a chain that stands at a place. -/
def problems (c : Chain) (n : Node) (path : FieldPath) : Report :=
  rules.flatMap fun rule => rule c n path

end Node

namespace Network

/-- The first of several nodes is one that the others can meet the network through. -/
def firstIsBootnode (n : Network) : Report :=
  match n.nodes with
  | first :: _ :: _ =>
    when (!first.bootnode)
      (.invalid ((nodeField 0).child "bootnode") (.flag false)
        "first node must be a bootnode if network has multiple nodes")
  | _ => []

/-- No node has the name of an earlier one. -/
def uniqueNames (n : Network) : Report :=
  n.nodes.zipIdx.flatMap fun (node, i) =>
    when ((n.nodes.take i).any fun earlier => earlier.name == node.name)
      (.duplicate ((nodeField i).child "name") (.text node.name))

/-- What is wrong with the nodes, each by itself. -/
def nodeProblems (n : Network) : Report :=
  n.nodes.zipIdx.flatMap fun (node, i) => node.problems n.chain (nodeField i)

/-- What is wrong with a network by itself. -/
def problems (n : Network) : Report :=
  n.chain.problems ++ firstIsBootnode n ++ uniqueNames n ++ nodeProblems n

/-- A field that may be missing changed. -/
def changed {α : Type} [DecidableEq α] (name : String) (text : α → String) (old new : Option α) :
    Report :=
  when (old ≠ new) (.immutable (field name) (.text ((new.map text).getD "")))

/-- The nodes that stand at the same place before and after, with that place. -/
def pairs (old new : Network) : List ((Node × Node) × Nat) := (old.nodes.zip new.nodes).zipIdx

/-- No node changes its name. -/
def renamed (old new : Network) : Report :=
  (pairs old new).flatMap fun ((before, after), i) =>
    when (before.name ≠ after.name)
      (.immutable ((nodeField i).child "name") (.text after.name))

/-- What must not change in the resources of the nodes. -/
def resourceTransitions (old new : Network) : Report :=
  (pairs old new).flatMap fun ((before, after), i) =>
    Resources.transitions before.resources after.resources ((nodeField i).child "resources")

/-- What changed in a network that must not change. The first block counts as one value. -/
def transitions (old new : Network) : Report :=
  changed "join" PublicNetwork.name old.chain.join new.chain.join ++
  changed "consensus" Consensus.name old.chain.consensus new.chain.consensus ++
  changed "genesis" (fun _ => "") old.chain.genesis new.chain.genesis ++
  changed "id" (fun id => toString id.toNat) old.chain.id new.chain.id ++
  renamed old new ++ resourceTransitions old new

end Network

end Nodewright.Execution
