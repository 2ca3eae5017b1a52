import Mathlib.Data.List.Basic
import Nodewright.Execution.Rules
import Nodewright.Proofs.Capability
import Nodewright.Proofs.Execution.ForkOrder
import Nodewright.Proofs.Report.Extension
import Nodewright.Proofs.Resources.Filling

/-!
# Filling an execution network

Filling a network leaves nearly all of its report as it is: the block that is put in for the
consensus rule is the one that the rules ask for, forks that are filled in keep their order, and
every client knows the usual level of logging. Only a limit without its request may come out below
the request of the profile.

## Key results

- `Genesis.consensusBlocks_fill_eq_iff`: when the filled first block has one block of parameters,
  that of the consensus rule
- `Chain.problems_fill`: a filled chain has the problems of the chain itself
- `Node.problems_fill`, `Network.problems_fill`: and so have nodes and networks, but for limits
- `Network.fill_fill`: a filled network is left alone, whatever the images
-/

namespace Nodewright.Execution

/-! ## The first block -/

namespace Genesis

variable {g : Genesis}

/-- Whether the first block has the parameters of a consensus rule. -/
def hasBlock (g : Genesis) : Consensus → Bool
  | .proofOfAuthority => g.clique.isSome
  | .istanbulBft => g.ibft2.isSome
  | .proofOfWork => g.ethash.isSome

/-- The consensus rules of which the first block has parameters. -/
def consensusBlocks (g : Genesis) : List Consensus :=
  [.proofOfAuthority, .istanbulBft, .proofOfWork].filter g.hasBlock

/-- Filling changes the parameters of the consensus rule at most, beside the header. -/
theorem fill_eq (k : Option Consensus) (g : Genesis) :
    g.fill k =
      { g.fillHeader with
        clique := (g.fill k).clique
        ibft2 := (g.fill k).ibft2
        ethash := (g.fill k).ethash } := by
  unfold fill withConsensusBlock
  split <;> [skip; split] <;> rfl

/-- The identity of the chain is not filled in. -/
@[simp] theorem chainId_fill (k : Option Consensus) (g : Genesis) :
    (g.fill k).chainId = g.chainId := by
  rw [fill_eq]; rfl

/-- Nor are the accounts that have coins from the start. -/
@[simp] theorem accounts_fill (k : Option Consensus) (g : Genesis) :
    (g.fill k).accounts = g.accounts := by
  rw [fill_eq]; rfl

/-- A filled first block has a schedule, which is filled itself. -/
@[simp] theorem forks_fill (k : Option Consensus) (g : Genesis) :
    (g.fill k).forks = some (g.forks.getD .empty).fill := by
  rw [fill_eq]; rfl

/-- There are parameters iff there are those of some consensus rule. -/
theorem hasConsensusBlock_eq_true_iff :
    g.hasConsensusBlock = true ↔ ∃ b, g.hasBlock b = true := by
  constructor
  · intro h
    simp only [hasConsensusBlock, Bool.or_eq_true] at h
    rcases h with (h | h) | h
    · exact ⟨.proofOfAuthority, h⟩
    · exact ⟨.istanbulBft, h⟩
    · exact ⟨.proofOfWork, h⟩
  · rintro ⟨b, hb⟩
    cases b <;> simp_all [hasConsensusBlock, hasBlock]

/-- Where there are parameters, those of the consensus rule are not put in. -/
theorem withConsensusBlock_of_true (k : Option Consensus) (h : g.hasConsensusBlock = true) :
    g.withConsensusBlock k = g :=
  if_pos h

/-- Where some parameters are there, no others are put in. -/
theorem fill_of_hasBlock {b : Consensus} (k : Option Consensus) (h : g.hasBlock b = true) :
    g.fill k =
      { g.fillHeader with
        clique := g.clique.map Clique.fill
        ibft2 := g.ibft2.map Ibft2.fill } := by
  have hheader : g.fillHeader.hasConsensusBlock = true :=
    hasConsensusBlock_eq_true_iff.2 ⟨b, h⟩
  rw [fill, withConsensusBlock_of_true k hheader]
  rfl

/-- The parameters of the consensus rule are put in if there are none at all. -/
theorem hasBlock_withConsensusBlock (k : Option Consensus) (g : Genesis) (b : Consensus) :
    (g.withConsensusBlock k).hasBlock b =
      (g.hasBlock b || (!g.hasConsensusBlock && k = some b)) := by
  cases hg : g.hasConsensusBlock with
  | true => simp [withConsensusBlock_of_true k hg]
  | false =>
    -- no parameters are there, so those of the rule are put in if there is a rule
    rw [withConsensusBlock.eq_def, if_neg (by simp [hg])]
    simp only [hasConsensusBlock, Bool.or_eq_false_iff] at hg
    match k with
    | none => simp
    | some k => cases k <;> cases b <;> simp [hasBlock, hg]

/-- The filled first block has the parameters that were there; if there were none, it has those of
    the consensus rule. -/
theorem hasBlock_fill (k : Option Consensus) (g : Genesis) (b : Consensus) :
    (g.fill k).hasBlock b = (g.hasBlock b || (!g.hasConsensusBlock && k = some b)) := by
  -- the defaults within a block and those of the header neither add nor drop one
  have hheader : (g.fill k).hasBlock b = (g.fillHeader.withConsensusBlock k).hasBlock b := by
    cases b <;> simp [fill, hasBlock]
  have hblock : g.fillHeader.hasBlock b = g.hasBlock b := by cases b <;> rfl
  rw [hheader, hasBlock_withConsensusBlock, hblock]
  rfl

/-- The filled first block has one block of parameters, that of the consensus rule, iff no block of
    another rule was there. -/
theorem consensusBlocks_fill_eq_iff (k : Consensus) :
    (g.fill (some k)).consensusBlocks = [k] ↔ ∀ b, g.hasBlock b = true → b = k := by
  constructor
  · intro h b hb
    -- parameters that were there are still there
    have hmem : b ∈ (g.fill (some k)).consensusBlocks := by
      refine List.mem_filter.2 ⟨by cases b <;> simp, ?_⟩
      rw [hasBlock_fill, hb, Bool.true_or]
    rw [h] at hmem
    exact List.mem_singleton.1 hmem
  · intro h
    -- parameters of `k` are there, from before or put in, and no others
    have hblock (b : Consensus) : (g.fill (some k)).hasBlock b = decide (k = b) := by
      rw [hasBlock_fill]
      by_cases hb : g.hasBlock b = true
      · simp [hb, (h b hb).symm]
      · have hother (hk : k = b) : g.hasConsensusBlock = false := by
          rw [Bool.eq_false_iff, Ne, hasConsensusBlock_eq_true_iff]
          rintro ⟨c, hc⟩
          exact hb (hk ▸ h c hc ▸ hc)
        by_cases hk : k = b <;> simp [hb, hk, hother]
    rw [consensusBlocks, List.filter_congr fun b _ => hblock b]
    cases k <;> rfl

/-- A filled first block has parameters if it had some, or if there is a consensus rule. -/
theorem hasConsensusBlock_fill (k : Option Consensus) (g : Genesis) :
    (g.fill k).hasConsensusBlock = (g.hasConsensusBlock || k.isSome) := by
  rw [Bool.eq_iff_iff, hasConsensusBlock_eq_true_iff]
  simp only [hasBlock_fill, Bool.or_eq_true, Bool.and_eq_true, Bool.not_eq_true',
    decide_eq_true_iff]
  constructor
  -- parameters that are there were there or belong to the rule
  · rintro ⟨b, hb | ⟨-, rfl⟩⟩
    · exact .inl (hasConsensusBlock_eq_true_iff.2 ⟨b, hb⟩)
    · exact .inr rfl
  · intro h
    cases hg : g.hasConsensusBlock with
    | true =>
      obtain ⟨b, hb⟩ := hasConsensusBlock_eq_true_iff.1 hg
      exact ⟨b, .inl hb⟩
    | false =>
      obtain ⟨b, hb⟩ := Option.isSome_iff_exists.1 (h.resolve_left (by simp [hg]))
      exact ⟨b, .inr ⟨rfl, hb⟩⟩

/-- Filling fixes no difficulty, and keeps one that is fixed. -/
@[simp] theorem fixedDifficulty_fill (k : Option Consensus) (g : Genesis) :
    (g.fill k).fixedDifficulty = g.fixedDifficulty := by
  unfold fill withConsensusBlock
  split
  · rfl
  · next hg =>
    -- parameters of proof of work are put in only where there are none
    have hethash : g.ethash = none := by
      simp only [hasConsensusBlock, fillHeader, Bool.or_eq_true, not_or, Bool.not_eq_true,
        Option.isSome_eq_false_iff, Option.isNone_iff_eq_none] at hg
      exact hg.2
    split <;> simp [fixedDifficulty, fillHeader, hethash, Ethash.empty]

/-- A filled header is left alone. -/
@[simp] theorem fillHeader_fill (k : Option Consensus) (g : Genesis) :
    (g.fill k).fillHeader = g.fill k := by
  unfold fill withConsensusBlock
  split <;> [skip; split] <;> simp [fillHeader]

/-- A filled first block is left alone. -/
@[simp] theorem fill_fill (k : Option Consensus) (g : Genesis) :
    (g.fill k).fill k = g.fill k := by
  -- after filling, parameters are missing only where no rule asks for them
  have hblock : (g.fill k).withConsensusBlock k = g.fill k := by
    cases hk : k with
    | none => unfold withConsensusBlock; split <;> rfl
    | some b => exact withConsensusBlock_of_true _ (by simp [hasConsensusBlock_fill])
  rw [fill, fillHeader_fill, hblock]
  have hclique : (g.fill k).clique.map Clique.fill = (g.fill k).clique := by
    simp only [fill, Option.map_map]; rfl
  have hibft2 : (g.fill k).ibft2.map Ibft2.fill = (g.fill k).ibft2 := by
    simp only [fill, Option.map_map]; rfl
  simp only [hclique, hibft2]

end Genesis

/-! ## The chain -/

namespace Chain

/-- Parameters that are put in for the consensus rule match it. -/
theorem blockMatches_hasBlock_fill (g : Genesis) (k b : Consensus) (block : String) :
    blockMatches k b block ((g.fill (some k)).hasBlock b) =
      blockMatches k b block (g.hasBlock b) := by
  -- where parameters are put in, `k` is the rule that they belong to
  rw [blockMatches, blockMatches, Genesis.hasBlock_fill]
  by_cases hk : k = b <;> simp [hk]

/-- The rule on parameters finds the same, whichever of them are put in. -/
theorem consensusMatchesGenesis_fill (c : Chain) :
    c.fill.consensusMatchesGenesis = c.consensusMatchesGenesis := by
  obtain ⟨id, join, consensus, genesis⟩ := c
  match genesis, consensus with
  | none, _ => rfl
  | some _, none => rfl
  -- each of the three blocks is matched by itself
  | some g, some k =>
    exact congrArg₂ (· ++ ·)
      (congrArg₂ (· ++ ·) (blockMatches_hasBlock_fill g k .proofOfAuthority "clique")
        (blockMatches_hasBlock_fill g k .istanbulBft "ibft2"))
      (blockMatches_hasBlock_fill g k .proofOfWork "ethash")

/-- The rule on the identity of the main network looks at no setting that is filled in. -/
theorem mainnetReserved_fill (c : Chain) : c.fill.mainnetReserved = c.mainnetReserved := by
  obtain ⟨id, join, consensus, genesis⟩ := c
  cases genesis <;> simp [mainnetReserved, fill]

/-- Forks that are filled in are in the order in which the given ones are. -/
theorem forkOrder_fill (c : Chain) : c.fill.forkOrder = c.forkOrder := by
  obtain ⟨id, join, consensus, genesis⟩ := c
  match genesis with
  | none => rfl
  | some g =>
    simp only [forkOrder, fill, Option.map_some, Option.bind_some, Genesis.forks_fill,
      Report.ofSome_some, ForkSchedule.problems_fill]
    cases g.forks <;> rfl

/-- A filled chain has the problems of the chain itself. -/
@[simp] theorem problems_fill (c : Chain) : c.fill.problems = c.problems := by
  have hgenesis : c.fill.genesis.isSome = c.genesis.isSome := Option.isSome_map
  have hmissing : c.fill.genesis.isNone = c.genesis.isNone := Option.isNone_map
  refine List.flatMap_congr fun rule hrule => ?_
  simp only [rules, List.mem_cons, List.not_mem_nil, or_false] at hrule
  -- the first six rules ask of the first block only whether there is one
  rcases hrule with rfl | rfl | rfl | rfl | rfl | rfl | rfl | rfl | rfl
  · simp only [joinExcludesGenesis, hgenesis]; rfl
  · simp only [joinOrGenesis, hmissing]; rfl
  · rfl
  · rfl
  · simp only [genesisRequiresId, hgenesis]; rfl
  · simp only [genesisRequiresConsensus, hgenesis]; rfl
  · exact consensusMatchesGenesis_fill c
  · exact mainnetReserved_fill c
  · exact forkOrder_fill c

/-- A filled chain is left alone. -/
@[simp] theorem fill_fill (c : Chain) : c.fill.fill = c.fill := by
  obtain ⟨id, join, consensus, genesis⟩ := c
  cases genesis <;> simp [fill]

/-- A filled chain fixes its difficulty iff the chain itself does. -/
theorem fixedDifficulty_fill (c : Chain) :
    c.fill.genesis.bind Genesis.fixedDifficulty = c.genesis.bind Genesis.fixedDifficulty := by
  obtain ⟨id, join, consensus, genesis⟩ := c
  cases genesis <;> simp [fill]

end Chain

/-! ## Nodes -/

/-- Every client knows the usual level of logging. -/
theorem supports_logging_info (client : Client) :
    capabilities.supports client (.logging .info) = true := by
  cases client <;> decide

namespace CallEndpoint

@[simp] theorem enabled_fill (port : UInt16) (e : CallEndpoint) :
    (e.fill port).endpoint.enabled = e.endpoint.enabled :=
  Endpoint.enabled_fill port e.endpoint

/-- A filled interface is left alone. -/
@[simp] theorem fill_fill (port : UInt16) (e : CallEndpoint) :
    (e.fill port).fill port = e.fill port := by
  -- groups of calls that were put in are some, so none are put in again
  have hapis : (if (e.fill port).endpoint.enabled && (e.fill port).apis.isEmpty then usualApis
      else (e.fill port).apis) = (e.fill port).apis := by
    rw [enabled_fill]
    exact ite_ite_usual (fun apis : List Api => e.endpoint.enabled && apis.isEmpty) usualApis
      e.apis
  have hendpoint : (e.fill port).endpoint.fill port = (e.fill port).endpoint :=
    Endpoint.fill_fill ..
  rw [fill, hapis, hendpoint]

end CallEndpoint

namespace Node

/-- The usual resources of a node are quantities. -/
theorem profile_readable : profile.Readable := by
  constructor <;> decide

/-- The rules of a node, without the one on its resources. -/
def settingRules : List (Chain → Node → FieldPath → Report) := rules.dropLast

/-- The report on a node ends with that on its resources, which is the part that filling may change.
    -/
theorem problems_eq_append (c : Chain) (n : Node) (path : FieldPath) :
    n.problems c path =
      (settingRules.flatMap fun rule => rule c n path) ++
        n.resources.problems (path.child "resources") := by
  have hrules : rules = settingRules ++ [resourcesInOrder] := rfl
  rw [problems, hrules, List.flatMap_append, List.flatMap_singleton]
  rfl

/-- The usual settings make no difference to the rules on settings. -/
theorem flatMap_settingRules_fill (images : Image.Overrides) (c : Chain) (n : Node)
    (path : FieldPath) :
    (settingRules.flatMap fun rule => rule c.fill (n.fill images) path) =
      settingRules.flatMap fun rule => rule c n path := by
  refine List.flatMap_congr fun rule hrule => ?_
  simp only [settingRules, rules, List.dropLast, List.mem_cons, List.not_mem_nil,
    or_false] at hrule
  rcases hrule with rfl | rfl | rfl | rfl | rfl | rfl | rfl | rfl | rfl | rfl | rfl | rfl | rfl |
    rfl | rfl
  · rfl
  · rfl
  · rfl
  · rfl
  · rfl
  · -- the first block keeps its difficulty
    simp only [fixedDifficultySupport, Chain.fixedDifficulty_fill]
    rfl
  · rfl
  · rfl
  · rfl
  · -- no interface is opened or closed
    simp [importExcludesEndpoints, fill]
  · -- the usual way to synchronise is not the light one
    cases h : n.syncMode <;> simp [lightSyncSupport, fill, h, supports, wrongClient]
  · simp [graphqlSupport, fill, supports, wrongClient]
  · simp only [gethGraphqlRequiresRpc, fill, CallEndpoint.enabled_fill, Endpoint.enabled_fill]
    rfl
  · exact Registry.loggingRule_getD (supports_logging_info n.client) _ _
  · rfl

/-- A node with the usual settings has the problems of the node itself, and limits that are below
    a request of the profile. -/
theorem problems_fill (images : Image.Overrides) (c : Chain) (n : Node) (path : FieldPath) :
    Report.Extends (Resources.BelowUsual profile n.resources (path.child "resources"))
      (n.problems c path) ((n.fill images).problems c.fill path) := by
  rw [problems_eq_append, problems_eq_append, flatMap_settingRules_fill]
  exact (Report.Extends.refl _).append (Resources.problems_fill profile_readable n.resources _)

/-- No interface is opened or closed. -/
@[simp] theorem servesApi_fill (images : Image.Overrides) (n : Node) :
    (n.fill images).servesApi = n.servesApi := by
  simp [servesApi, fill]

/-- Origins that have been put in are left alone. -/
theorem originsOr_fill (images : Image.Overrides) (n : Node) (origins : List String) :
    (n.fill images).originsOr (n.originsOr origins) = n.originsOr origins := by
  rw [originsOr, servesApi_fill]
  exact ite_ite_usual (fun origins : List String => n.servesApi && origins.isEmpty) ["*"] origins

/-- A filled node is left alone, whatever the images. -/
@[simp] theorem fill_fill (images images' : Image.Overrides) (n : Node) :
    (n.fill images).fill images' = n.fill images := by
  have hrpc : (n.fill images).rpc.fill 8545 = (n.fill images).rpc := CallEndpoint.fill_fill ..
  have hws : (n.fill images).ws.fill 8546 = (n.fill images).ws := CallEndpoint.fill_fill ..
  have hgraphql : (n.fill images).graphql.fill 8547 = (n.fill images).graphql :=
    Endpoint.fill_fill ..
  have hhosts : (n.fill images).originsOr (n.fill images).hosts = (n.fill images).hosts :=
    originsOr_fill ..
  have hcors :
      (n.fill images).originsOr (n.fill images).corsDomains = (n.fill images).corsDomains :=
    originsOr_fill ..
  -- every other setting is given by now, the image included
  rw [fill, hrpc, hws, hgraphql, hhosts, hcors]
  rfl

end Node

/-! ## Networks -/

namespace Network

/-- The rule on the first node asks whether it is a bootnode, which is not filled in. -/
theorem firstIsBootnode_fill (images : Image.Overrides) (n : Network) :
    (n.fill images).firstIsBootnode = n.firstIsBootnode := by
  obtain ⟨chain, nodes⟩ := n
  -- the rule speaks of two nodes or more, so the list is taken apart that far
  match nodes with
  | [] => rfl
  | [_] => rfl
  | _ :: _ :: _ => rfl

/-- The rule on names finds the same. -/
theorem uniqueNames_fill (images : Image.Overrides) (n : Network) :
    (n.fill images).uniqueNames = n.uniqueNames := by
  -- filling keeps the names, so the same earlier nodes are found
  simp only [uniqueNames, fill, List.zipIdx_map, List.flatMap_map, ← List.map_take, List.any_map]
  rfl

/-- A network with the usual settings has the problems of the network itself, and limits that are
    below a request of the profile. -/
theorem problems_fill (images : Image.Overrides) (n : Network) :
    Report.Extends
      (fun v => ∃ node ∈ n.nodes.zipIdx, Resources.BelowUsual Node.profile node.1.resources
        ((nodeField node.2).child "resources") v)
      n.problems (n.fill images).problems := by
  -- what is added to the report on a node is added below the place of the node
  have hnodes : Report.Extends (fun v => ∃ node ∈ n.nodes.zipIdx,
      Resources.BelowUsual Node.profile node.1.resources
        ((nodeField node.2).child "resources") v) n.nodeProblems (n.fill images).nodeProblems := by
    simp only [nodeProblems, fill, List.zipIdx_map, List.flatMap_map]
    refine .flatMap fun node hnode => ?_
    exact (Node.problems_fill images n.chain node.1 (nodeField node.2)).mono
      fun v hv => ⟨node, hnode, hv⟩
  refine .append (.of_eq ?_) hnodes
  rw [firstIsBootnode_fill, uniqueNames_fill]
  exact congrArg (· ++ _ ++ _) (Chain.problems_fill n.chain).symm

/-- A filled network is left alone, whatever the images. -/
@[simp] theorem fill_fill (images images' : Image.Overrides) (n : Network) :
    (n.fill images).fill images' = n.fill images := by
  simp [fill, Function.comp_def]

end Network

end Nodewright.Execution
