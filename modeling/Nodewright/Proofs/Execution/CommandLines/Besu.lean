import Nodewright.Proofs.Execution.CommandLines.Alike

/-!
# The command line of Besu

Besu is told all that matters to it in words of its own, but for the account of a node that does not
mine. A node that is admitted has no such account.

## Key results

- `items`, `flatMap_items`: the command line as a list of items
- `alike_of_args_eq`: admitted nodes are known from their command lines
-/

namespace Nodewright.Execution.Besu

open Arguments

/-- On which chain the node works. -/
def chainItems (c : Chain) : List Item :=
  [.setting "--network" (c.join.map PublicNetwork.name),
    .setting "--genesis-file" (onlyIf c.join.isNone (some (Home.config home ++ "/genesis.json"))),
    .setting "--network-id" c.idText]

/-- How the node takes part in its network. -/
def networkItems (n : Node) : List Item :=
  [.setting "--node-private-key-file"
      (onlyIf n.nodekeySecretName.isSome (some (Home.secret home "nodekey"))),
    .setting "--bootnodes" (joined n.bootnodes),
    .setting "--p2p-port" (n.p2pPort.map port),
    .setting "--sync-mode" (n.syncMode.map SyncMode.upperName)]

/-- How the node mines. -/
def miningItems (n : Node) : List Item :=
  Item.under n.miner [.switch "--miner-enabled" true, .setting "--miner-coinbase" n.coinbase]

/-- The interface for remote procedure calls. -/
def rpcItems (n : Node) : List Item :=
  Item.under n.rpc.endpoint.enabled <|
    [.switch "--rpc-http-enabled" true] ++
    n.rpc.items "--rpc-http-host" "--rpc-http-port" "--rpc-http-api" id Api.upperName ++
    [.setting "--rpc-http-cors-origins" (joined n.corsDomains)]

/-- The interface for calls over a socket. -/
def wsItems (n : Node) : List Item :=
  Item.under n.ws.endpoint.enabled <|
    [.switch "--rpc-ws-enabled" true] ++
    n.ws.items "--rpc-ws-host" "--rpc-ws-port" "--rpc-ws-api" id Api.upperName

/-- The interface for graph queries. -/
def graphqlItems (n : Node) : List Item :=
  Item.under n.graphql.enabled
    [.switch "--graphql-http-enabled" true,
      .setting "--graphql-http-host" n.graphql.host,
      .setting "--graphql-http-port" (n.graphql.port.map port),
      .setting "--graphql-http-cors-origins" (joined n.corsDomains)]

/-- The items of the command line of Besu. -/
def items (c : Chain) (n : Node) : List Item :=
  [.setting "--data-path" (some (Home.data home))] ++ chainItems c ++ networkItems n ++
  miningItems n ++ rpcItems n ++ wsItems n ++ graphqlItems n ++
  [.setting "--host-allowlist" (joined n.hosts),
    .setting "--logging" (n.logging.map Verbosity.upperName)]

/-- The flags of Besu. -/
def flags : List String :=
  ["--data-path", "--network", "--genesis-file", "--network-id", "--node-private-key-file",
    "--bootnodes", "--p2p-port", "--sync-mode", "--miner-enabled", "--miner-coinbase",
    "--rpc-http-enabled", "--rpc-http-host", "--rpc-http-port", "--rpc-http-api",
    "--rpc-http-cors-origins", "--rpc-ws-enabled", "--rpc-ws-host", "--rpc-ws-port",
    "--rpc-ws-api", "--graphql-http-enabled", "--graphql-http-host", "--graphql-http-port",
    "--graphql-http-cors-origins", "--host-allowlist", "--logging"]

/-- Whatever the node, the items have these flags, in this order. -/
theorem map_flag_items (c : Chain) (n : Node) : (items c n).map Item.flag = flags := rfl

/-- No flag stands twice, so each item is known from its flag. -/
theorem nodup_flags : flags.Nodup := by decide

/-- The words of the items are the command line. -/
theorem flatMap_items (c : Chain) (n : Node) : (items c n).flatMap Item.words = args c n := by
  -- part by part, an item that is left out has no words
  have hchain : (chainItems c).flatMap Item.words = chainArgs c := by
    cases hjoin : c.join <;> simp [chainItems, chainArgs, Chain.idText, hjoin]
  have hnetwork : (networkItems n).flatMap Item.words = networkArgs n := by
    simp [networkItems, networkArgs, given_joined, given_onlyIf]
  have hmining : (miningItems n).flatMap Item.words = miningArgs n := by
    rw [miningItems, Item.flatMap_words_under, miningArgs]
    simp [when]
  have hrpc : (rpcItems n).flatMap Item.words = rpcArgs n := by
    rw [rpcItems, Item.flatMap_words_under, rpcArgs]
    simp [CallEndpoint.items, apiNames, given_joined, when]
  have hws : (wsItems n).flatMap Item.words = wsArgs n := by
    rw [wsItems, Item.flatMap_words_under, wsArgs]
    simp [CallEndpoint.items, apiNames, given_joined, when]
  have hgraphql : (graphqlItems n).flatMap Item.words = graphqlArgs n := by
    rw [graphqlItems, Item.flatMap_words_under, graphqlArgs]
    simp [given_joined, when]
  simp only [items, args, List.flatMap_append, hchain, hnetwork, hmining, hrpc, hws, hgraphql]
  simp [given_joined]

/-- Nodes of Besu are known from their command lines. -/
theorem alike_of_args_eq {c d : Chain} {m n : Node} (hc : c.Admissible) (hd : d.Admissible)
    (hm : m.Admissible c) (hn : n.Admissible d) (hclient : m.client = .besu)
    (h : args c m = args d n) : m.Alike c d n := by
  -- items with the same flags are known from their words
  have hitems : items c m = items d n :=
    Item.eq_of_flatMap_words rfl (map_flag_items c m ▸ nodup_flags)
      (by rw [flatMap_items, flatMap_items, h])
  simp only [items, chainItems, networkItems, miningItems, rpcItems, wsItems, graphqlItems,
    CallEndpoint.items, Item.under, List.map_cons, List.map_nil, List.cons_append,
    List.nil_append, Item.limit_switch, Item.limit_setting, Bool.and_true, List.cons.injEq,
    Item.switch.injEq, Item.setting.injEq, true_and, and_true] at hitems
  -- origins, allowed hosts and the place of the first block play no part in likeness
  obtain ⟨hjoin, -, hid, hkey, hbootnodes, hport, hsync, hminer, hcoinbase, hrpc, hrpcHost,
    hrpcPort, hrpcApis, -, hws, hwsHost, hwsPort, hwsApis, hgraphql, hgraphqlHost, hgraphqlPort,
    -, -, hlogging⟩ := hitems
  have hjoin' : c.join = d.join := Option.map_injective Named.name_injective hjoin
  simp only [onlyIf_some_inj] at hkey
  exact {
    join := hjoin'
    id := hc.id_eq hd hjoin' hid
    nodekey := hkey
    bootnodes := joinWith_eq_of_joined hbootnodes
    p2pPort := Option.map_injective port_injective hport
    syncMode := Option.map_injective SyncMode.upperName_injective hsync
    miner := hminer
    coinbase := by rwa [hm.onlyIf_coinbase, hn.onlyIf_coinbase] at hcoinbase
    rpc := hclient ▸ CallEndpoint.alike_of_items Api.upperName_injective
      Api.comma_notMem_upperName hrpc hrpcHost hrpcPort hrpcApis
    ws := hclient ▸ CallEndpoint.alike_of_items Api.upperName_injective
      Api.comma_notMem_upperName hws hwsHost hwsPort hwsApis
    graphql := hgraphql
    graphqlPlace := fun _ henabled => by
      rw [← hgraphql, henabled] at hgraphqlHost hgraphqlPort
      exact ⟨hgraphqlHost, Option.map_injective port_injective hgraphqlPort⟩
    logging := Option.map_injective Verbosity.upperName_injective hlogging }

end Nodewright.Execution.Besu
