import Mathlib.Data.List.Nodup
import Nodewright.Proofs.Execution.Filling

/-!
# Execution networks that are admitted

The rules of a network are checked one by one, and several of them speak about the same settings.
This file says what they amount to together: which networks have no problem once the usual settings
are filled in.

## Key results

- `Chain.problems_eq_nil_iff`: a chain without problems joins a public chain, or starts one of its
  own with the parameters of its consensus rule
- `Node.mining_iff`, `Node.graphql_iff`: which clients mine and answer graph queries
- `Node.problems_fill_eq_nil_iff`: a filled node has no problem iff a network may have it
- `Network.admitted_iff_admissible`: a filled network has no problem iff it is admissible
-/

namespace Nodewright.Execution

/-! ## The chain -/

/-- The first block of a network of its own is fit for its chain. -/
structure Genesis.Fits (consensus : Option Consensus) (g : Genesis) : Prop where
  /-- The filled block has the parameters of the consensus rule, and of no other one. -/
  consensus : ∃ k, consensus = some k ∧ (g.fill consensus).consensusBlocks = [k]
  chainId : g.chainId ≠ 1
  /-- The forks that are given do not start before canonically earlier ones. -/
  forks : ∀ forks, g.forks = some forks → (forks.blocks Fork.canonical).Pairwise (· ≤ ·)

/-- A chain that a network may have. -/
structure Chain.Admissible (c : Chain) : Prop where
  /-- The chain is joined or started, and not both. -/
  source : (c.join.isSome ∧ c.genesis = none) ∨ (c.join = none ∧ c.genesis.isSome)
  joined : c.join.isSome → c.id = none ∧ c.consensus = none
  started : ∀ g, c.genesis = some g → c.id.isSome ∧ g.Fits c.consensus

namespace Chain

variable {c : Chain}

/-- A first block matches a consensus rule if, once it is filled, it has the parameters of that rule
    alone. -/
theorem consensusMatchesGenesis_eq_nil_iff {g : Genesis} {k : Consensus}
    (hgenesis : c.genesis = some g) (hconsensus : c.consensus = some k) :
    c.consensusMatchesGenesis = [] ↔ (g.fill (some k)).consensusBlocks = [k] := by
  have hmatches (b : Consensus) (block : String) :
      blockMatches k b block (g.hasBlock b) = [] ↔ (g.hasBlock b = true → b = k) := by
    by_cases hk : k = b <;> simp [blockMatches, hk, Ne.symm]
  have hpresent : c.consensusMatchesGenesis =
      blockMatches k .proofOfAuthority "clique" (g.hasBlock .proofOfAuthority) ++
      blockMatches k .istanbulBft "ibft2" (g.hasBlock .istanbulBft) ++
      blockMatches k .proofOfWork "ethash" (g.hasBlock .proofOfWork) := by
    rw [consensusMatchesGenesis, hgenesis, hconsensus]; rfl
  -- three rules, one for the parameters of each consensus rule
  rw [hpresent, Genesis.consensusBlocks_fill_eq_iff, List.append_eq_nil_iff,
    List.append_eq_nil_iff, hmatches, hmatches, hmatches]
  constructor
  · rintro ⟨⟨hpoa, hibft2⟩, hpow⟩ b
    cases b <;> assumption
  · exact fun h => ⟨⟨h _, h _⟩, h _⟩

/-- The rule on the order of forks looks at those that are given. -/
theorem forkOrder_eq_nil_iff {g : Genesis} (hgenesis : c.genesis = some g) :
    c.forkOrder = [] ↔
      ∀ forks, g.forks = some forks → (forks.blocks Fork.canonical).Pairwise (· ≤ ·) := by
  rw [forkOrder, hgenesis, Option.bind_some]
  cases g.forks <;> simp [ForkSchedule.problems_eq_nil_iff]

/-- A chain that is joined has no problem iff nothing else is said of it. -/
theorem problems_eq_nil_iff_of_joined (hjoin : c.join.isSome) (hgenesis : c.genesis = none) :
    c.problems = [] ↔ c.id = none ∧ c.consensus = none := by
  obtain ⟨id, join, consensus, genesis⟩ := c
  obtain ⟨join, rfl⟩ := Option.isSome_iff_exists.1 hjoin
  obtain rfl : genesis = none := hgenesis
  -- nothing but these two can be given beside the public chain
  cases id <;> cases consensus <;>
    simp [problems, rules, joinExcludesGenesis, joinOrGenesis, joinExcludesConsensus,
      joinExcludesId, genesisRequiresId, genesisRequiresConsensus, consensusMatchesGenesis,
      mainnetReserved, forkOrder]

/-- A chain that is started has no problem iff it has an identity and its first block fits. -/
theorem problems_eq_nil_iff_of_started {g : Genesis} (hjoin : c.join = none)
    (hgenesis : c.genesis = some g) :
    c.problems = [] ↔ c.id.isSome ∧ g.Fits c.consensus := by
  have hrules : c.problems = [] ↔ c.id.isSome ∧ c.consensus.isSome ∧
      c.consensusMatchesGenesis = [] ∧ g.chainId ≠ Genesis.mainnetChainId ∧
      c.forkOrder = [] := by
    simp [problems, rules, joinExcludesGenesis, joinOrGenesis, joinExcludesConsensus,
      joinExcludesId, genesisRequiresId, genesisRequiresConsensus, mainnetReserved, hjoin,
      hgenesis]
  rw [hrules, forkOrder_eq_nil_iff hgenesis]
  -- the parameters are compared with the consensus rule, so that has to be there first
  refine and_congr_right fun _ => ⟨?_, ?_⟩
  · rintro ⟨hconsensus, hmatches, hchain, hforks⟩
    obtain ⟨k, hk⟩ := Option.isSome_iff_exists.1 hconsensus
    rw [consensusMatchesGenesis_eq_nil_iff hgenesis hk] at hmatches
    exact ⟨⟨k, hk, hk ▸ hmatches⟩, hchain, hforks⟩
  · rintro ⟨⟨k, hk, hblocks⟩, hchain, hforks⟩
    rw [hk] at hblocks
    exact ⟨hk ▸ rfl, (consensusMatchesGenesis_eq_nil_iff hgenesis hk).2 hblocks, hchain, hforks⟩

/-- A chain without problems is joined or started, and not both. -/
theorem source_of_problems_eq_nil (h : c.problems = []) :
    (c.join.isSome ∧ c.genesis = none) ∨ (c.join = none ∧ c.genesis.isSome) := by
  have hboth : c.joinExcludesGenesis = [] := List.flatMap_eq_nil_iff.1 h _ (by simp [rules])
  have hnone : c.joinOrGenesis = [] := List.flatMap_eq_nil_iff.1 h _ (by simp [rules])
  -- one rule turns down both, and another one neither
  cases hjoin : c.join <;> cases hgenesis : c.genesis <;>
    simp_all [joinExcludesGenesis, joinOrGenesis]

/-- A chain has no problem iff a network may have it. -/
theorem problems_eq_nil_iff : c.problems = [] ↔ c.Admissible := by
  constructor
  · intro h
    -- each of the two cases has its own rules
    have hsource := source_of_problems_eq_nil h
    refine ⟨hsource, fun hjoin => ?_, fun g hgenesis => ?_⟩
    · have hgenesis : c.genesis = none := by
        rcases hsource with ⟨-, hgenesis⟩ | ⟨hnone, -⟩
        · exact hgenesis
        · simp [hnone] at hjoin
      exact (problems_eq_nil_iff_of_joined hjoin hgenesis).1 h
    · have hjoin : c.join = none := by
        rcases hsource with ⟨-, hnone⟩ | ⟨hjoin, -⟩
        · exact nomatch hnone.symm.trans hgenesis
        · exact hjoin
      exact (problems_eq_nil_iff_of_started hjoin hgenesis).1 h
  · intro h
    rcases h.source with ⟨hjoin, hgenesis⟩ | ⟨hjoin, hgenesis⟩
    · exact (problems_eq_nil_iff_of_joined hjoin hgenesis).2 (h.joined hjoin)
    · obtain ⟨g, hgenesis⟩ := Option.isSome_iff_exists.1 hgenesis
      exact (problems_eq_nil_iff_of_started hjoin hgenesis).2 (h.started g hgenesis)

end Chain

/-! ## Nodes -/

namespace Node

variable {c : Chain} {n : Node} {path : FieldPath}

/-- A node that a network with the chain may have. -/
structure Admissible (c : Chain) (n : Node) : Prop where
  bootnode : n.bootnode = true → n.nodekeySecretName.isSome
  miner : n.miner = true ↔ n.coinbase.isSome
  coinbase : ∀ account, n.coinbase = some account → Format.isAccountAddress account = true
  consensus : ∀ k, c.consensus = some k → n.supports k.feature = true
  fixedDifficulty : (c.genesis.bind Genesis.fixedDifficulty).isSome → n.client = .besu
  /-- Besu mines by itself, and geth for an account that it has imported. -/
  mining : n.miner = true →
    (n.client = .besu ∧ n.importedAccount = none) ∨ (n.client = .geth ∧ n.importedAccount.isSome)
  imported : n.importedAccount.isSome → (n.client = .geth ∨ n.client = .parity) ∧
    n.rpc.endpoint.enabled = false ∧ n.ws.endpoint.enabled = false ∧ n.graphql.enabled = false
  lightSync : n.syncMode = some .light → n.client = .geth
  graphql : n.graphql.enabled = true →
    n.client = .besu ∨ (n.client = .geth ∧ n.rpc.endpoint.enabled = true)
  logging : ∀ level, n.logging = some level → n.supports (.logging level) = true
  bootnodes : ∀ url ∈ n.bootnodes, Format.isEnode url = true
  resources : n.resources.Sound profile

/-- The clients that have a feature are those that the registry lists for it. -/
theorem supports_iff_of_supporting {feature : Feature} {clients : List Client}
    (h : capabilities.supporting feature = clients) :
    n.supports feature = true ↔ n.client ∈ clients := by
  rw [← h]
  exact Registry.supports_iff_mem_supporting (by decide) feature

/-- The rule on the nodes to meet the network through asks for their addresses. -/
theorem bootnodeUrls_eq_nil_iff :
    bootnodeUrls c n path = [] ↔ ∀ url ∈ n.bootnodes, Format.isEnode url = true :=
  Report.flatMap_zipIdx_eq_nil_iff fun url j => by simp

/-- The rules on miners say which client mines, and for which account. -/
theorem mining_iff (hcoinbase : n.miner = true → n.coinbase.isSome)
    (himport : n.importedAccount.isSome → n.client = .geth ∨ n.client = .parity) :
    miningSupport c n path ++ miningRequiresImport c n path = [] ↔
      (n.miner = true → (n.client = .besu ∧ n.importedAccount = none) ∨
        (n.client = .geth ∧ n.importedAccount.isSome)) := by
  have hmining : n.supports .mining = true ↔ n.client ∈ [.besu, .geth] :=
    supports_iff_of_supporting (by decide)
  have hsupport : n.supports .importAccount = true ↔ n.client ∈ [.geth, .parity] :=
    supports_iff_of_supporting (by decide)
  simp only [List.mem_cons, List.not_mem_nil, or_false] at hmining hsupport
  simp only [miningSupport, miningRequiresImport, List.append_eq_nil_iff, Report.when_eq_nil,
    Bool.and_eq_false_imp, Bool.not_eq_false', Bool.and_eq_true]
  constructor
  · rintro ⟨hmine, hrequires⟩ hminer
    cases haccount : n.importedAccount with
    | none =>
      -- geth would have to import the account
      have hno := hrequires ⟨⟨⟨hminer, hcoinbase hminer⟩, haccount ▸ rfl⟩, hmine hminer⟩
      have hgeth : n.client ≠ .geth := fun h => by simp [hsupport.2 (.inl h)] at hno
      exact .inl ⟨(hmining.1 (hmine hminer)).resolve_right hgeth, rfl⟩
    | some account =>
      -- besu could not import the account
      have hbesu : n.client ≠ .besu := fun h => by simp [haccount, h] at himport
      exact .inr ⟨(hmining.1 (hmine hminer)).resolve_left hbesu, rfl⟩
  · intro h
    refine ⟨fun hminer => hmining.2 ?_, ?_⟩
    · rcases h hminer with ⟨hclient, -⟩ | ⟨hclient, -⟩
      · exact .inl hclient
      · exact .inr hclient
    · rintro ⟨⟨⟨hminer, -⟩, haccount⟩, -⟩
      rcases h hminer with ⟨hclient, -⟩ | ⟨-, hsome⟩
      · rw [Bool.eq_false_iff, Ne, hsupport, hclient]
        simp
      · rw [Option.isNone_iff_eq_none] at haccount
        simp [haccount] at hsome

/-- The rules on graph queries say which client answers them, and where. -/
theorem graphql_iff :
    graphqlSupport c n path ++ gethGraphqlRequiresRpc c n path = [] ↔
      (n.graphql.enabled = true →
        n.client = .besu ∨ (n.client = .geth ∧ n.rpc.endpoint.enabled = true)) := by
  have hgraphql : n.supports .graphql = true ↔ n.client ∈ [.besu, .geth] :=
    supports_iff_of_supporting (by decide)
  simp only [List.mem_cons, List.not_mem_nil, or_false] at hgraphql
  simp only [graphqlSupport, gethGraphqlRequiresRpc, List.append_eq_nil_iff, Report.when_eq_nil,
    Bool.and_eq_false_imp, Bool.not_eq_false', Bool.and_eq_true, decide_eq_true_eq]
  constructor
  · rintro ⟨hsupport, hrpc⟩ henabled
    exact (hgraphql.1 (hsupport henabled)).imp_right fun hgeth =>
      ⟨hgeth, hrpc ⟨hgeth, henabled⟩⟩
  · intro h
    refine ⟨fun henabled => hgraphql.2 ((h henabled).imp_right And.left), ?_⟩
    rintro ⟨hgeth, henabled⟩
    exact ((h henabled).resolve_left (by simp [hgeth])).2

/-- A filled node has no problem iff a network with the chain may have it. -/
theorem problems_fill_eq_nil_iff (images : Image.Overrides) :
    (n.fill images).problems c.fill path = [] ↔ n.Admissible c := by
  have hfixed : n.supports .fixedDifficulty = true ↔ n.client ∈ [.besu] :=
    supports_iff_of_supporting (by decide)
  have himport : n.supports .importAccount = true ↔ n.client ∈ [.geth, .parity] :=
    supports_iff_of_supporting (by decide)
  have hlight : n.supports .lightSync = true ↔ n.client ∈ [.geth] :=
    supports_iff_of_supporting (by decide)
  have hresources : (n.fill images).resources = n.resources.fill profile := rfl
  simp only [List.mem_cons, List.not_mem_nil, or_false] at hfixed himport hlight
  rw [problems_eq_append, flatMap_settingRules_fill, List.append_eq_nil_iff, hresources,
    Resources.problems_fill_eq_nil_iff profile_readable]
  simp only [settingRules, rules, List.dropLast, List.flatMap_cons, List.flatMap_nil,
    List.append_nil, List.append_eq_nil_iff, bootnodeUrls_eq_nil_iff]
  simp only [bootnodeRequiresNodekey, minerRequiresCoinbase, coinbaseRequiresMiner,
    coinbaseFormat, consensusSupport, fixedDifficultySupport, importSupport,
    importExcludesEndpoints, lightSyncSupport, loggingSupport, List.append_eq_nil_iff,
    Report.ofSome_eq_nil_iff, Report.when_eq_nil, Bool.and_eq_false_imp, Bool.not_eq_false',
    Registry.loggingRule_eq_nil_iff, Option.isNone_eq_false_iff, decide_eq_true_eq, hfixed,
    himport, hlight]
  -- most rules are conditions of their own; those on miners and on graph queries go together
  constructor
  · rintro ⟨⟨hbootnode, hminer, hcoinbase, hformat, hconsensus, hdifficulty, hmine, haccount,
      hrequires, ⟨⟨hrpc, hws⟩, hgraphql⟩, hsync, hquery, hgeth, hlogging, hbootnodes⟩, hsound⟩
    exact {
      bootnode := hbootnode
      miner := ⟨hminer, hcoinbase⟩
      coinbase := hformat
      consensus := hconsensus
      fixedDifficulty := hdifficulty
      mining := (mining_iff hminer haccount).1 (List.append_eq_nil_iff.2 ⟨hmine, hrequires⟩)
      imported := fun h => ⟨haccount h, hrpc h, hws h, hgraphql h⟩
      lightSync := hsync
      graphql := graphql_iff.1 (List.append_eq_nil_iff.2 ⟨hquery, hgeth⟩)
      logging := hlogging
      bootnodes := hbootnodes
      resources := hsound }
  · intro h
    have hminers : miningSupport c n path ++ miningRequiresImport c n path = [] :=
      (mining_iff h.miner.1 fun hs => (h.imported hs).1).2 h.mining
    have hqueries : graphqlSupport c n path ++ gethGraphqlRequiresRpc c n path = [] :=
      graphql_iff.2 h.graphql
    obtain ⟨hmine, hrequires⟩ := List.append_eq_nil_iff.1 hminers
    obtain ⟨hquery, hgeth⟩ := List.append_eq_nil_iff.1 hqueries
    exact ⟨⟨h.bootnode, h.miner.1, h.miner.2, h.coinbase, h.consensus, h.fixedDifficulty, hmine,
      fun hs => (h.imported hs).1, hrequires,
      ⟨⟨fun hs => (h.imported hs).2.1, fun hs => (h.imported hs).2.2.1⟩,
        fun hs => (h.imported hs).2.2.2⟩,
      h.lightSync, hquery, hgeth, h.logging, h.bootnodes⟩, h.resources⟩

end Node

/-! ## Networks -/

namespace Network

variable {n : Network}

/-- A network that is admitted once the usual settings are filled in. -/
structure Admissible (n : Network) : Prop where
  chain : n.chain.Admissible
  names : (n.nodes.map Node.name).Nodup
  /-- The first of several nodes is one to meet the network through. -/
  bootnode : ∀ first, n.nodes.head? = some first → 1 < n.nodes.length → first.bootnode = true
  nodes : ∀ node ∈ n.nodes, node.Admissible n.chain

/-- The rule on the first node is about networks of several nodes. -/
theorem firstIsBootnode_eq_nil_iff :
    n.firstIsBootnode = [] ↔
      ∀ first, n.nodes.head? = some first → 1 < n.nodes.length → first.bootnode = true := by
  obtain ⟨chain, nodes⟩ := n
  match nodes with
  | [] => simp [firstIsBootnode]
  | [_] => simp [firstIsBootnode]
  | _ :: _ :: _ => simp [firstIsBootnode]

/-- No node has the name of an earlier one iff the names are distinct. -/
theorem uniqueNames_eq_nil_iff : n.uniqueNames = [] ↔ (n.nodes.map Node.name).Nodup := by
  rw [List.Nodup, List.pairwise_map, List.pairwise_iff_getElem]
  simp only [uniqueNames, List.flatMap_eq_nil_iff, Prod.forall, List.mk_mem_zipIdx_iff_getElem?,
    Report.when_eq_nil, List.any_eq_false, beq_iff_eq]
  constructor
  · intro h i j hi hj hij
    -- the node at `i` is among those in front of the node at `j`
    refine h n.nodes[j] j (List.getElem?_eq_getElem hj) n.nodes[i] ?_
    exact List.mem_take_iff_getElem.2 ⟨i, by omega, rfl⟩
  · intro h node j hj earlier hearlier
    obtain ⟨hlt, rfl⟩ := List.getElem?_eq_some_iff.1 hj
    obtain ⟨i, hi, rfl⟩ := List.mem_take_iff_getElem.1 hearlier
    exact h i j (by omega) hlt (by omega)

theorem nodeProblems_fill_eq_nil_iff (images : Image.Overrides) :
    (n.fill images).nodeProblems = [] ↔ ∀ node ∈ n.nodes, node.Admissible n.chain := by
  simp only [nodeProblems, fill, List.zipIdx_map, List.flatMap_map]
  exact Report.flatMap_zipIdx_eq_nil_iff fun node i => Node.problems_fill_eq_nil_iff images

/-- A network with the usual settings has no problem iff it is admissible. -/
theorem admitted_iff_admissible (images : Image.Overrides) (n : Network) :
    (n.fill images).problems = [] ↔ n.Admissible := by
  have hchain : (n.fill images).chain.problems = n.chain.problems := Chain.problems_fill n.chain
  rw [problems, List.append_eq_nil_iff, List.append_eq_nil_iff, List.append_eq_nil_iff, hchain,
    firstIsBootnode_fill, uniqueNames_fill, Chain.problems_eq_nil_iff,
    firstIsBootnode_eq_nil_iff, uniqueNames_eq_nil_iff, nodeProblems_fill_eq_nil_iff]
  constructor
  · rintro ⟨⟨⟨hsound, hbootnode⟩, hnames⟩, hnodes⟩
    exact ⟨hsound, hnames, hbootnode, hnodes⟩
  · exact fun h => ⟨⟨⟨h.chain, h.bootnode⟩, h.names⟩, h.nodes⟩

end Network

end Nodewright.Execution
