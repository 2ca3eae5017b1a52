import Nodewright.Proofs.Execution.CommandLines.Alike

/-!
# The command line of Parity

Parity is told when an interface is not offered, and nothing of the usual way to synchronise, of
mining, or of graph queries. A node that is admitted does not mine, answers no graph queries and
does not synchronise lightly.

## Key results

- `items`, `flatMap_items`: the command line as a list of items
- `chainValue_injective`: the chain is known from the value of its flag
- `alike_of_args_eq`: admitted nodes are known from their command lines
-/

namespace Nodewright.Execution.Parity

open Arguments

/-- The value of the flag for the chain: the name of a public network, or a file. -/
def chainValue (join : Option PublicNetwork) : String :=
  match join with
  | some network => networkName network
  | none => Home.config home ++ "/genesis.json"

/-- On which chain the node works. -/
def chainItems (c : Chain) : List Item :=
  [.setting "--chain" (some (chainValue c.join)), .setting "--network-id" c.idText]

/-- How the node takes part in its network. -/
def networkItems (n : Node) : List Item :=
  [.setting "--node-key"
      (onlyIf n.nodekeySecretName.isSome (some ("$(" ++ nodeKeyVariable ++ ")"))),
    .setting "--bootnodes" (joined n.bootnodes),
    .setting "--port" (n.p2pPort.map port),
    .switch "--no-warp" (n.syncMode = some .full)]

/-- The account that the node works for. -/
def accountItems (n : Node) : List Item :=
  [.setting "--author" n.unlocked,
    .setting "--unlock" n.unlocked,
    .setting "--password" (n.unlocked.map fun _ => Home.secret home "account.password")]

/-- The interface for remote procedure calls. -/
def rpcItems (n : Node) : List Item :=
  Item.under n.rpc.endpoint.enabled
    (n.rpc.items "--jsonrpc-interface" "--jsonrpc-port" "--jsonrpc-apis" hostName Api.name ++
      [.setting "--jsonrpc-cors" (joined n.corsDomains),
        .setting "--jsonrpc-hosts" (joined n.hosts)]) ++
  [.switch "--no-jsonrpc" (!n.rpc.endpoint.enabled)]

/-- The interface for calls over a socket. -/
def wsItems (n : Node) : List Item :=
  Item.under n.ws.endpoint.enabled
    (n.ws.items "--ws-interface" "--ws-port" "--ws-apis" hostName Api.name ++
      [.setting "--ws-origins" (joined n.corsDomains),
        .setting "--ws-hosts" (joined n.hosts)]) ++
  [.switch "--no-ws" (!n.ws.endpoint.enabled)]

/-- The items of the command line of Parity. -/
def items (c : Chain) (n : Node) : List Item :=
  [.setting "--base-path" (some (Home.data home))] ++ chainItems c ++ networkItems n ++
  accountItems n ++ rpcItems n ++ wsItems n ++
  [.setting "--logging" (n.logging.map Verbosity.name)]

/-- The flags of Parity. -/
def flags : List String :=
  ["--base-path", "--chain", "--network-id", "--node-key", "--bootnodes", "--port", "--no-warp",
    "--author", "--unlock", "--password", "--jsonrpc-interface", "--jsonrpc-port",
    "--jsonrpc-apis", "--jsonrpc-cors", "--jsonrpc-hosts", "--no-jsonrpc", "--ws-interface",
    "--ws-port", "--ws-apis", "--ws-origins", "--ws-hosts", "--no-ws", "--logging"]

/-- Whatever the node, the items have these flags, in this order. -/
theorem map_flag_items (c : Chain) (n : Node) : (items c n).map Item.flag = flags := rfl

/-- No flag stands twice, so each item is known from its flag. -/
theorem nodup_flags : flags.Nodup := by decide

/-- The words of the items are the command line. -/
theorem flatMap_items (c : Chain) (n : Node) : (items c n).flatMap Item.words = args c n := by
  have hchain : (chainItems c).flatMap Item.words = chainArgs c := by
    cases hjoin : c.join <;> simp [chainItems, chainArgs, chainValue, Chain.idText, hjoin]
  have hnetwork : (networkItems n).flatMap Item.words = networkArgs n := by
    simp [networkItems, networkArgs, given_joined, given_onlyIf]
  have haccount : (accountItems n).flatMap Item.words = accountArgs n := by
    cases hcoinbase : n.coinbase <;> cases himported : n.importedAccount <;>
      simp [accountItems, accountArgs, Node.unlocked, hcoinbase, himported]
  -- an interface that is not offered is turned down by a flag
  have hrpc : (rpcItems n).flatMap Item.words = rpcArgs n := by
    rw [rpcItems, List.flatMap_append, Item.flatMap_words_under, rpcArgs]
    cases n.rpc.endpoint.enabled <;>
      simp [CallEndpoint.items, apiNames, given_joined, when]
  have hws : (wsItems n).flatMap Item.words = wsArgs n := by
    rw [wsItems, List.flatMap_append, Item.flatMap_words_under, wsArgs]
    cases n.ws.endpoint.enabled <;>
      simp [CallEndpoint.items, apiNames, given_joined, when]
  simp only [items, args, List.flatMap_append, hchain, hnetwork, haccount, hrpc, hws]
  simp

/-- A chain is known from the value of its flag. -/
theorem chainValue_injective : Function.Injective chainValue := by
  have hnodup : (((Named.all : List PublicNetwork).map some ++ [none]).map chainValue).Nodup := by
    decide
  have hmem (join : Option PublicNetwork) :
      join ∈ (Named.all : List PublicNetwork).map some ++ [none] := by
    cases join <;> simp [Named.mem_all]
  exact fun join join' => List.inj_on_of_nodup_map hnodup (hmem join) (hmem join')

/-- A node of Parity does not mine, and so has no account to be paid to. -/
theorem miner_eq_false {c : Chain} {n : Node} (h : n.Admissible c) (hclient : n.client = .parity) :
    n.miner = false ∧ n.coinbase = none := by
  have hminer : n.miner = false := by
    -- a miner would be one of Besu or Geth
    by_contra hmine
    rcases h.mining (by simpa using hmine) with ⟨hbesu, -⟩ | ⟨hgeth, -⟩
    · simp [hclient] at hbesu
    · simp [hclient] at hgeth
  have hcoinbase := h.onlyIf_coinbase
  rw [hminer] at hcoinbase
  exact ⟨hminer, hcoinbase.symm⟩

/-- A node of Parity does not synchronise lightly, so it does it fully or fast. -/
theorem syncMode_eq {c : Chain} {n : Node} (h : n.Admissible c) (hclient : n.client = .parity)
    (hsync : n.syncMode.isSome) :
    n.syncMode = if n.syncMode = some .full then some .full else some .fast := by
  obtain ⟨mode, hmode⟩ := Option.isSome_iff_exists.1 hsync
  rw [hmode]
  cases mode with
  | fast => rfl
  | full => rfl
  | light => simpa [hclient] using h.lightSync hmode

/-- Parity answers no graph queries. -/
theorem graphql_eq_false {c : Chain} {n : Node} (h : n.Admissible c)
    (hclient : n.client = .parity) : n.graphql.enabled = false := by
  by_contra hgraphql
  simpa [hclient] using h.graphql (by simpa using hgraphql)

/-- Nodes of Parity are known from their command lines. -/
theorem alike_of_args_eq {c d : Chain} {m n : Node} (hc : c.Admissible) (hd : d.Admissible)
    (hm : m.Admissible c) (hn : n.Admissible d) (hclient : m.client = .parity)
    (hclient' : n.client = .parity) (hfilled : m.syncMode.isSome) (hfilled' : n.syncMode.isSome)
    (h : args c m = args d n) : m.Alike c d n := by
  -- items with the same flags are known from their words
  have hitems : items c m = items d n :=
    Item.eq_of_flatMap_words rfl (map_flag_items c m ▸ nodup_flags)
      (by rw [flatMap_items, flatMap_items, h])
  simp only [items, chainItems, networkItems, accountItems, rpcItems, wsItems,
    CallEndpoint.items, Item.under, List.map_cons, List.map_nil, List.cons_append,
    List.nil_append, Item.limit_setting, Bool.not_eq_eq_eq_not, Bool.not_not, List.cons.injEq,
    Item.switch.injEq, Item.setting.injEq, decide_eq_decide, Option.some.injEq, true_and,
    and_true] at hitems
  -- origins, hosts that may call and the unlocked account play no part in likeness
  obtain ⟨hchain, hid, hkey, hbootnodes, hport, hsync, -, -, -, hrpcHost, hrpcPort, hrpcApis, -, -,
    hrpc, hwsHost, hwsPort, hwsApis, -, -, hws, hlogging⟩ := hitems
  have hjoin : c.join = d.join := chainValue_injective hchain
  obtain ⟨hminer, hcoinbase⟩ := miner_eq_false hm hclient
  obtain ⟨hminer', hcoinbase'⟩ := miner_eq_false hn hclient'
  exact {
    join := hjoin
    id := hc.id_eq hd hjoin hid
    nodekey := onlyIf_some_inj.1 hkey
    bootnodes := joinWith_eq_of_joined hbootnodes
    p2pPort := Option.map_injective port_injective hport
    syncMode := by
      rw [syncMode_eq hm hclient hfilled, syncMode_eq hn hclient' hfilled']
      exact if_congr hsync rfl rfl
    miner := hminer.trans hminer'.symm
    coinbase := hcoinbase.trans hcoinbase'.symm
    rpc := hclient ▸ CallEndpoint.alike_of_items Named.name_injective Api.comma_notMem_name hrpc
      hrpcHost hrpcPort hrpcApis
    ws := hclient ▸ CallEndpoint.alike_of_items Named.name_injective Api.comma_notMem_name hws
      hwsHost hwsPort hwsApis
    graphql := (graphql_eq_false hm hclient).trans (graphql_eq_false hn hclient').symm
    graphqlPlace := fun hbesu => by simp [hclient] at hbesu
    logging := Option.map_injective Named.name_injective hlogging }

end Nodewright.Execution.Parity
