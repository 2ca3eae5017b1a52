import Nodewright.Proofs.Execution.CommandLines.Alike

/-!
# The command line of Geth

Geth joins the main network if it is told nothing, joins the others by flags of their own, and
counts its levels of logging. In a network that is admitted there is an identity exactly if no
public network is joined, and the levels that Geth knows have different numbers.

## Key results

- `items`, `flatMap_items`: the command line as a list of items
- `join_eq_of_switches`: the public network is known from the flags
- `alike_of_args_eq`: admitted nodes are known from their command lines
-/

namespace Nodewright.Execution.Geth

open Arguments

/-- The public networks that are joined by a flag: all but the main one, which is joined without. -/
def flagged : List PublicNetwork :=
  [.ropsten, .rinkeby, .goerli, .sepolia, .classic, .mordor, .kotti]

/-- On which chain the node works. -/
def chainItems (c : Chain) : List Item :=
  flagged.map (fun network => .switch ("--" ++ network.name) (c.join = some network)) ++
  [.setting "--networkid" c.idText]

/-- How the node takes part in its network. -/
def networkItems (n : Node) : List Item :=
  [.setting "--nodekey" (onlyIf n.nodekeySecretName.isSome (some (Home.secret home "nodekey"))),
    .setting "--bootnodes" (joined n.bootnodes),
    .setting "--port" (n.p2pPort.map port),
    .setting "--syncmode" (n.syncMode.map SyncMode.name)]

/-- How the node mines. -/
def miningItems (n : Node) : List Item :=
  Item.under n.miner
    [.switch "--mine" true,
      .setting "--miner.etherbase" n.coinbase,
      .setting "--unlock" n.unlocked,
      .setting "--password" (n.unlocked.map fun _ => Home.secret home "account.password")]

/-- The interface for remote procedure calls. -/
def rpcItems (n : Node) : List Item :=
  Item.under n.rpc.endpoint.enabled <|
    [.switch "--http" true] ++
    n.rpc.items "--http.addr" "--http.port" "--http.api" id Api.name ++
    [.setting "--http.corsdomain" (joined n.corsDomains),
      .setting "--http.vhosts" (joined n.hosts)]

/-- The interface for calls over a socket. -/
def wsItems (n : Node) : List Item :=
  Item.under n.ws.endpoint.enabled <|
    [.switch "--ws" true] ++
    n.ws.items "--ws.addr" "--ws.port" "--ws.api" id Api.name ++
    [.setting "--ws.origins" (joined n.corsDomains)]

/-- The interface for graph queries. -/
def graphqlItems (n : Node) : List Item :=
  Item.under n.graphql.enabled
    [.switch "--graphql" true,
      .setting "--graphql.corsdomain" (joined n.corsDomains),
      .setting "--graphql.vhosts" (joined n.hosts)]

/-- The items of the command line of Geth. -/
def items (c : Chain) (n : Node) : List Item :=
  [.setting "--datadir" (some (Home.data home))] ++ chainItems c ++ networkItems n ++
  miningItems n ++ rpcItems n ++ wsItems n ++ graphqlItems n ++
  [.setting "--verbosity" (n.logging.map level)]

/-- The flags of Geth. -/
def flags : List String :=
  ["--datadir"] ++ flagged.map (fun network => "--" ++ network.name) ++
  ["--networkid", "--nodekey", "--bootnodes", "--port", "--syncmode", "--mine",
    "--miner.etherbase", "--unlock", "--password", "--http", "--http.addr", "--http.port",
    "--http.api", "--http.corsdomain", "--http.vhosts", "--ws", "--ws.addr", "--ws.port",
    "--ws.api", "--ws.origins", "--graphql", "--graphql.corsdomain", "--graphql.vhosts",
    "--verbosity"]

/-- Whatever the node, the items have these flags, in this order. -/
theorem map_flag_items (c : Chain) (n : Node) : (items c n).map Item.flag = flags := rfl

/-- No flag stands twice, so each item is known from its flag. -/
theorem nodup_flags : flags.Nodup := by decide

/-- The words of the items are the command line. -/
theorem flatMap_items (c : Chain) (n : Node) : (items c n).flatMap Item.words = args c n := by
  -- part by part, an item that is left out has no words
  have hchain : (chainItems c).flatMap Item.words = chainArgs c := by
    cases hjoin : c.join with
    | none => simp [chainItems, chainArgs, Chain.idText, flagged, when, hjoin]
    | some network =>
      cases network <;> simp [chainItems, chainArgs, Chain.idText, flagged, when, hjoin]
  have hnetwork : (networkItems n).flatMap Item.words = networkArgs n := by
    simp [networkItems, networkArgs, given_joined, given_onlyIf]
  have hmining : (miningItems n).flatMap Item.words = miningArgs n := by
    rw [miningItems, Item.flatMap_words_under, miningArgs]
    -- only an account that has been imported is unlocked, and only with its address
    cases hcoinbase : n.coinbase <;> cases himported : n.importedAccount <;>
      simp [coinbaseArgs, unlockArgs, Node.unlocked, when, hcoinbase, himported]
  have hrpc : (rpcItems n).flatMap Item.words = rpcArgs n := by
    rw [rpcItems, Item.flatMap_words_under, rpcArgs]
    simp [CallEndpoint.items, apiNames, given_joined, when]
  have hws : (wsItems n).flatMap Item.words = wsArgs n := by
    rw [wsItems, Item.flatMap_words_under, wsArgs]
    simp [CallEndpoint.items, apiNames, given_joined, when]
  have hgraphql : (graphqlItems n).flatMap Item.words = graphqlArgs n := by
    rw [graphqlItems, Item.flatMap_words_under, graphqlArgs]
    simp [given_joined, when]
  simp only [items, args, List.flatMap_append, hchain, hnetwork, hmining, hrpc, hws, hgraphql]
  simp

/-- A chain is known from the flags of the public networks, and from whether it has an identity. -/
theorem join_eq_of_switches {c d : Chain} (hc : c.Admissible) (hd : d.Admissible)
    (hswitches : ∀ network ∈ flagged, c.join = some network ↔ d.join = some network)
    (hid : c.idText = d.idText) : c.join = d.join := by
  have hnone : c.join.isNone = d.join.isNone := by
    rw [← hc.isSome_idText, hid, hd.isSome_idText]
  have hflagged (network : PublicNetwork) : network = .mainnet ∨ network ∈ flagged := by
    cases network <;> decide
  cases hjoin : c.join with
  | none => rw [hjoin] at hnone; exact (Option.isNone_iff_eq_none.1 hnone.symm).symm
  | some network =>
    cases hjoin' : d.join with
    | none => simp [hjoin, hjoin'] at hnone
    | some network' =>
      -- two networks of which neither has a flag are the main network
      rcases hflagged network with rfl | hmem
      · rcases hflagged network' with rfl | hmem'
        · rfl
        · rw [← hjoin, (hswitches network' hmem').2 hjoin']
      · rw [← hjoin', (hswitches network hmem).1 hjoin]

/-- The levels that Geth knows have different numbers. -/
theorem level_injective {v w : Verbosity} (hv : capabilities.supports .geth (.logging v) = true)
    (hw : capabilities.supports .geth (.logging w) = true) (h : level v = level w) : v = w := by
  have hnodup : (((Named.all : List Verbosity).filter fun v =>
      capabilities.supports .geth (.logging v)).map level).Nodup := by decide
  exact List.inj_on_of_nodup_map hnodup (List.mem_filter.2 ⟨Named.mem_all v, hv⟩)
    (List.mem_filter.2 ⟨Named.mem_all w, hw⟩) h

/-- A level that may be missing is known from its number, if Geth knows it. -/
theorem logging_eq {v w : Option Verbosity}
    (hv : ∀ level, v = some level → capabilities.supports .geth (.logging level) = true)
    (hw : ∀ level, w = some level → capabilities.supports .geth (.logging level) = true)
    (h : v.map level = w.map level) : v = w := by
  cases v with
  | none => exact (Option.map_eq_none_iff.1 h.symm).symm
  | some v =>
    cases w with
    | none => exact nomatch h
    | some w => rw [level_injective (hv v rfl) (hw w rfl) (Option.some.inj h)]

/-- Nodes of Geth are known from their command lines. -/
theorem alike_of_args_eq {c d : Chain} {m n : Node} (hc : c.Admissible) (hd : d.Admissible)
    (hm : m.Admissible c) (hn : n.Admissible d) (hclient : m.client = .geth)
    (hclient' : n.client = .geth) (h : args c m = args d n) : m.Alike c d n := by
  -- items with the same flags are known from their words
  have hitems : items c m = items d n :=
    Item.eq_of_flatMap_words rfl (map_flag_items c m ▸ nodup_flags)
      (by rw [flatMap_items, flatMap_items, h])
  simp only [items, chainItems, networkItems, miningItems, rpcItems, wsItems, graphqlItems,
    flagged, CallEndpoint.items, Item.under, List.map_cons, List.map_nil, List.cons_append,
    List.nil_append, Item.limit_switch, Item.limit_setting, Bool.and_true, List.cons.injEq,
    Item.switch.injEq, Item.setting.injEq, decide_eq_decide, true_and, and_true] at hitems
  -- origins, virtual hosts and the unlocked account play no part in likeness
  obtain ⟨hropsten, hrinkeby, hgoerli, hsepolia, hclassic, hmordor, hkotti, hid, hkey, hbootnodes,
    hport, hsync, hminer, hcoinbase, -, -, hrpc, hrpcHost, hrpcPort, hrpcApis, -, -, hws, hwsHost,
    hwsPort, hwsApis, -, hgraphql, -, -, hlogging⟩ := hitems
  have hjoin : c.join = d.join := by
    refine join_eq_of_switches hc hd ?_ hid
    simp [flagged, hropsten, hrinkeby, hgoerli, hsepolia, hclassic, hmordor, hkotti]
  exact {
    join := hjoin
    id := hc.id_eq hd hjoin hid
    nodekey := onlyIf_some_inj.1 hkey
    bootnodes := joinWith_eq_of_joined hbootnodes
    p2pPort := Option.map_injective port_injective hport
    syncMode := Option.map_injective Named.name_injective hsync
    miner := hminer
    coinbase := by rwa [hm.onlyIf_coinbase, hn.onlyIf_coinbase] at hcoinbase
    rpc := hclient ▸ CallEndpoint.alike_of_items Named.name_injective Api.comma_notMem_name hrpc
      hrpcHost hrpcPort hrpcApis
    ws := hclient ▸ CallEndpoint.alike_of_items Named.name_injective Api.comma_notMem_name hws
      hwsHost hwsPort hwsApis
    graphql := hgraphql
    graphqlPlace := fun hbesu => by simp [hclient] at hbesu
    logging := logging_eq (fun v hv => hclient ▸ hm.logging v hv)
      (fun w hw => hclient' ▸ hn.logging w hw) hlogging }

end Nodewright.Execution.Geth
