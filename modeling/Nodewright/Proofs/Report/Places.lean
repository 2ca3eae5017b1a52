import Nodewright.Proofs.Execution.ForkOrder
import Nodewright.Proofs.Report.Slots
import Nodewright.Spec

/-!
# Where the rules of each kind report

The rules of a kind are gone through one by one: `Spec.places` lists the slots that they fill, and
the report on a spec fills each of these at most once. Where two rules look at the same field, they
are never broken together.

## Key results

- `Spec.places`: the slots of a kind, next to each other
- `Spec.within_problems`: the report on a spec fills each of them at most once
-/

namespace Nodewright

open FieldPath (field)
open Report (Within)
open Siblings (slots)

/-! ## Pieces of rules -/

namespace OwnDetail

/-- The details that rules on a spec by itself start with. -/
theorem quantity : OwnDetail "must be a valid quantity" :=
  .ofList (by decide)

/-- The detail of a processor limit starts like that of storage which shrinks, but goes on
    otherwise. -/
theorem limitBelow_cpu : OwnDetail ("must be greater than or equal to " ++ "cpu") := by
  have htext : "must be greater than or equal to " ++ "cpu" =
      "must be greater than or equal to cpu" := by decide
  rw [htext]
  exact .ofList (by decide)

/-- So does that of a limit on memory. -/
theorem limitBelow_memory : OwnDetail ("must be greater than or equal to " ++ "memory") := by
  have htext : "must be greater than or equal to " ++ "memory" =
      "must be greater than or equal to memory" := by decide
  rw [htext]
  exact .ofList (by decide)

/-- The detail of a setting that a client does not have. -/
theorem unsupported : OwnDetail "not supported by client " :=
  .ofList (by decide)

end OwnDetail

/-- The rule on the level of logging fills the slot of that field, whatever the client. -/
theorem Registry.within_loggingRule {α : Type} [DecidableEq α] [Named α] (registry : Registry α)
    (client : α) (level : Option Verbosity) (path : FieldPath) :
    Within [(path.child "logging", none)]
      (registry.loggingRule client level (path.child "logging")) :=
  .ofSome fun _ => .when (.invalid (by decide) (OwnDetail.unsupported.append _))

/-- The slots of the rules on resources. -/
def Resources.places (path : FieldPath) : Siblings :=
  .fields path ["cpu", "cpuLimit", "memory", "memoryLimit", "storage"]

namespace Resources

/-- The rule on one quantity fills the slot of its field. -/
theorem within_quantityRule (path : FieldPath) {name : String} (hname : name ∉ crowdedNames)
    (value : Option String) :
    Within [(path.child name, .none)] (quantityRule (path.child name) value) :=
  .ofSome fun _ => .when (.invalid hname .quantity)

/-- A limit that is no quantity is below no request. -/
theorem quantityRule_eq_nil_or (path path' : FieldPath) (label : String)
    (request limit : Option String) :
    quantityRule path limit = [] ∨ limitRule path' label request limit = [] := by
  cases limit with
  | none => exact .inl rfl
  | some limit =>
    cases hlimit : Quantity.ofText? limit with
    | some q => exact .inl (by simp [quantityRule, hlimit])
    | none =>
      have hless (request : String) : Quantity.isLess limit request = false := by
        simp [Quantity.isLess, Quantity.amount?, hlimit]
      exact .inr (by cases request <;> simp [limitRule, hless])

/-- The two rules on a limit fill one slot. -/
theorem within_limit (path : FieldPath) {name label : String} (hname : name ∉ crowdedNames)
    (hlabel : OwnDetail ("must be greater than or equal to " ++ label))
    (request limit : Option String) :
    Within [(path.child name, .none)] (quantityRule (path.child name) limit ++
      limitRule (path.child name) label request limit) := by
  refine .either (within_quantityRule path hname limit) ?_ (quantityRule_eq_nil_or _ _ _ _ _)
  refine .ofSome fun _ => .ofSome fun _ => .when (.invalid hname ?_)
  exact (hlabel.append " ").append _

/-- The seven rules on resources fill five slots, since those on a limit share theirs. -/
theorem within_problems (r : Resources) (path : FieldPath) :
    Within (places path).slots (r.problems path) := by
  -- the two rules on a limit do not stand next to each other
  have hperm : (quantityRule (path.child "cpu") r.cpu ++
      ((quantityRule (path.child "cpuLimit") r.cpuLimit ++
        limitRule (path.child "cpuLimit") "cpu" r.cpu r.cpuLimit) ++
      (quantityRule (path.child "memory") r.memory ++
      ((quantityRule (path.child "memoryLimit") r.memoryLimit ++
        limitRule (path.child "memoryLimit") "memory" r.memory r.memoryLimit) ++
      quantityRule (path.child "storage") r.storage)))).Perm (r.problems path) := by
    rw [problems]
    simp only [← Multiset.coe_eq_coe, ← Multiset.coe_add]
    ac_rfl
  refine Within.perm ?_ hperm
  exact .cons (within_quantityRule path (by decide) r.cpu) <|
    .cons (within_limit path (by decide) OwnDetail.limitBelow_cpu r.cpu r.cpuLimit) <|
    .cons (within_quantityRule path (by decide) r.memory) <|
    .cons (within_limit path (by decide) OwnDetail.limitBelow_memory r.memory r.memoryLimit)
      (within_quantityRule path (by decide) r.storage)

end Resources

/-! ## Execution networks -/

namespace Execution

/-- No fork is named like a crowded field. -/
theorem Fork.name_notMem_crowdedNames (fork : Fork) : fork.name ∉ crowdedNames := by
  cases fork <;> decide

/-- The slots of the rules on a schedule. -/
def ForkSchedule.places (path : FieldPath) : Siblings :=
  .fields path (Fork.canonical.map Fork.name)

/-- Each fork is looked at once. -/
theorem ForkSchedule.within_problems (s : ForkSchedule) (path : FieldPath) :
    Within (places path).slots (s.problems path) := by
  -- the walk remembers the highest block so far, so the statement is about every such block
  suffices h : ∀ forks highest, Within (Siblings.fields path (forks.map Fork.name)).slots
      (s.problemsFrom path highest forks) from h _ _
  intro forks
  -- induction on the forks that are left: a fork that is not scheduled leaves its slot empty
  induction forks with
  | nil => exact fun _ => .nil _
  | cons fork rest ih =>
    intro highest
    cases hblock : s.block? fork with
    | none =>
      rw [problemsFrom_cons_none hblock]
      exact (ih highest).skip
    | some block =>
      rw [problemsFrom_cons_some hblock]
      refine .cons (.ofSome fun _ => .when (.invalid fork.name_notMem_crowdedNames ?_)) (ih _)
      repeat refine OwnDetail.append ?_ _
      exact .ofList (by decide)

namespace Chain

/-- What is said where the parameters of a consensus rule are given under another one. -/
def blockDetail (expected : Consensus) (block : String) : String :=
  "must be " ++ expected.name ++ " if spec.genesis." ++ block ++ " is specified"

/-- What is said of the consensus rule of a chain. -/
def consensusDetails : List String :=
  ["must be none while joining a network", "must be specified if spec.genesis is provided",
    blockDetail .proofOfAuthority "clique", blockDetail .istanbulBft "ibft2",
    blockDetail .proofOfWork "ethash"]

/-- What is said of a missing consensus rule is no detail of a change, whichever rule it is. -/
theorem ownDetail_mustBe (expected : Consensus) : OwnDetail ("must be " ++ expected.name) := by
  cases expected with
  | proofOfWork =>
    have htext : "must be " ++ Consensus.proofOfWork.name = "must be pow" := by decide
    exact htext ▸ .ofList (by decide)
  | proofOfAuthority =>
    have htext : "must be " ++ Consensus.proofOfAuthority.name = "must be poa" := by decide
    exact htext ▸ .ofList (by decide)
  | istanbulBft =>
    have htext : "must be " ++ Consensus.istanbulBft.name = "must be ibft2" := by decide
    exact htext ▸ .ofList (by decide)

/-- The last steps to the fields of a chain that have rules. -/
def settings : List (FieldPath.Step × Option String) :=
  (["join", "genesis", "id"].map fun name => (.child name, none)) ++
  consensusDetails.map fun detail => (.child "consensus", some detail)

/-- The slots of the rules on a chain. -/
def places : List Siblings :=
  [⟨.spec, settings⟩, .fields (field "genesis") ["chainId"],
    ForkSchedule.places ((field "genesis").child "forks")]

/-- The nine rules on a chain fill its slots: those on the consensus rule are told apart by their
    details, and the two on the identity exclude each other. -/
theorem within_problems (c : Chain) : Within (places.flatMap slots) c.problems := by
  -- one rule wants no identity, the other wants one
  have hid : joinExcludesId c = [] ∨ genesisRequiresId c = [] := by
    cases hid : c.id <;> simp [joinExcludesId, genesisRequiresId, hid]
  have hperm : (joinExcludesGenesis c ++ (joinOrGenesis c ++ ((joinExcludesId c ++
      genesisRequiresId c) ++ (joinExcludesConsensus c ++ (genesisRequiresConsensus c ++
      (consensusMatchesGenesis c ++ (mainnetReserved c ++ forkOrder c))))))).Perm c.problems := by
    simp only [problems, rules, List.flatMap_cons, List.flatMap_nil, List.append_nil,
      ← Multiset.coe_eq_coe, ← Multiset.coe_add]
    ac_rfl
  -- the parameters of three consensus rules are looked at by one rule
  have hblock (expected consensus : Consensus) (block : String) (present : Bool) :
      Within [(field "consensus", some (blockDetail expected block))]
        (blockMatches consensus expected block present) := by
    refine .when (.crowded (by decide) ?_)
    exact (((ownDetail_mustBe expected).append _).append _).append _
  have hblocks : Within (((consensusDetails.drop 2).map fun detail =>
      (field "consensus", some detail))) (consensusMatchesGenesis c) :=
    .ofSome fun g => .ofSome fun consensus =>
      ((hblock _ _ _ _).append (hblock _ _ _ _)).append (hblock _ _ _ _)
  refine Within.perm ?_ hperm
  refine .cons (.ofSome fun _ => .when ?_) <| .cons (.when ?_) <|
    .cons (.either (.ofSome fun _ => .when ?_) (.when ?_) hid) <|
    .cons (.ofSome fun _ => .when (.crowded (by decide) ?_)) <|
    .cons (.when (.crowded (by decide) ?_)) <| hblocks.append <|
    .cons (.ofSome fun _ => .when ?_) (.ofSome fun forks => forks.within_problems _)
  all_goals try refine .invalid (by decide) ?_
  all_goals exact .ofList (by decide)

end Chain

namespace Node

/-- What is said of a client that does not follow a consensus rule. -/
def consensusDetail (consensus : Consensus) : String :=
  "client doesn't support " ++ consensus.name ++ " consensus"

/-- What is said of the client of a node. -/
def clientDetails : List String :=
  (Named.all : List Consensus).map consensusDetail ++
  ["client doesn't support fixed difficulty pow networks", "client doesn't support mining",
    "must be " ++ capabilities.choice .importAccount ++ " if import is provided",
    "must be " ++ capabilities.choice .lightSync ++ " if syncMode is light",
    "client doesn't support graphQL"]

/-- The detail that names the clients with imported accounts. -/
theorem ownDetail_importers :
    OwnDetail ("must be " ++ capabilities.choice .importAccount) := by
  have htext : "must be " ++ capabilities.choice .importAccount = "must be geth or parity" := by
    decide +kernel
  exact htext ▸ .ofList (by decide)

/-- The detail that names the clients with light synchronization. -/
theorem ownDetail_lightClients : OwnDetail ("must be " ++ capabilities.choice .lightSync) := by
  have htext : "must be " ++ capabilities.choice .lightSync = "must be geth" := by decide +kernel
  exact htext ▸ .ofList (by decide)

/-- The last steps to the fields of a node that have rules. -/
def settings : List (FieldPath.Step × Option String) :=
  (["nodekey", "coinbase", "miner", "import", "rpc", "ws", "graphql", "logging"].map
    fun name => (.child name, none)) ++
  clientDetails.map fun detail => (.child "client", some detail)

/-- The slots of the rules on a node, but for those of its own fields. -/
def innerPlaces (n : Node) (path : FieldPath) : List Siblings :=
  [.items (path.child "bootnodes") n.bootnodes.length, Resources.places (path.child "resources")]

/-- An interface that is offered by a node with an imported account. -/
def endpointClosed (n : Node) (path : FieldPath) (name : String) (e : Endpoint) : Report :=
  Report.when (n.importedAccount.isSome && e.enabled)
    (.invalid (path.child name) (.flag true) "must be false if import is provided")

/-- The rules on a node fill its slots: those on the client are told apart by their details, and two
    pairs of rules on the same field exclude each other. -/
theorem within_problems (c : Chain) (n : Node) (path : FieldPath) :
    Within ((⟨path, settings⟩ :: n.innerPlaces path).flatMap slots) (n.problems c path) := by
  -- an account that is missing has no format
  have hcoinbase : minerRequiresCoinbase c n path = [] ∨ coinbaseFormat c n path = [] := by
    cases hcoinbase : n.coinbase <;> simp [minerRequiresCoinbase, coinbaseFormat, hcoinbase]
  -- one rule is about an interface that is offered, the other about one that is not
  have hrpc : n.endpointClosed path "rpc" n.rpc.endpoint = [] ∨
      gethGraphqlRequiresRpc c n path = [] := by
    cases henabled : n.rpc.endpoint.enabled <;>
      simp [endpointClosed, gethGraphqlRequiresRpc, henabled]
  -- rules on one field next to each other, those on the client behind them, inner places last
  have hperm : (bootnodeRequiresNodekey c n path ++
      ((minerRequiresCoinbase c n path ++ coinbaseFormat c n path) ++
      (coinbaseRequiresMiner c n path ++ (miningRequiresImport c n path ++
      ((n.endpointClosed path "rpc" n.rpc.endpoint ++ gethGraphqlRequiresRpc c n path) ++
      (n.endpointClosed path "ws" n.ws.endpoint ++ (n.endpointClosed path "graphql" n.graphql ++
      (loggingSupport c n path ++ (consensusSupport c n path ++ (fixedDifficultySupport c n path ++
      (miningSupport c n path ++ (importSupport c n path ++ (lightSyncSupport c n path ++
      (graphqlSupport c n path ++ (bootnodeUrls c n path ++
        resourcesInOrder c n path))))))))))))))).Perm (n.problems c path) := by
    have himport : importExcludesEndpoints c n path =
        n.endpointClosed path "rpc" n.rpc.endpoint ++ n.endpointClosed path "ws" n.ws.endpoint ++
          n.endpointClosed path "graphql" n.graphql := rfl
    simp only [problems, rules, List.flatMap_cons, List.flatMap_nil, List.append_nil, himport,
      ← Multiset.coe_eq_coe, ← Multiset.coe_add]
    ac_rfl
  have hconsensus : Within ((Named.all : List Consensus).map fun consensus =>
      (path.child "client", some (consensusDetail consensus))) (consensusSupport c n path) := by
    refine .ofSome fun consensus => .of_mem (.when (.crowded (by decide) ?_))
      (List.mem_map_of_mem (Named.mem_all consensus))
    repeat refine OwnDetail.append ?_ _
    exact .ofList (by decide)
  have hclosed (name : String) (hname : name ∉ crowdedNames) (e : Endpoint) :
      Within [(path.child name, none)] (n.endpointClosed path name e) :=
    .when (.invalid hname (.ofList (by decide)))
  have hbootnodes : Within (Siblings.items (path.child "bootnodes") n.bootnodes.length).slots
      (bootnodeUrls c n path) :=
    .items fun _ _ => .when (.item (.ofList (by decide)))
  have hinner : Within ((n.innerPlaces path).flatMap slots)
      (bootnodeUrls c n path ++ resourcesInOrder c n path) :=
    hbootnodes.append (n.resources.within_problems _)
  refine Within.perm ?_ hperm
  refine .cons (.when ?_) <| .cons (.either (.when ?_) (.ofSome fun _ => .when ?_) hcoinbase) <|
    .cons (.when ?_) <| .cons (.when ?_) <|
    .cons (.either (hclosed "rpc" (by decide) _) (.when ?_) hrpc) <|
    .cons (hclosed "ws" (by decide) _) <| .cons (hclosed "graphql" (by decide) _) <|
    .cons (capabilities.within_loggingRule _ _ path) <| hconsensus.append <|
    .cons (.when (.crowded (by decide) ?_)) <| .cons (.when (.crowded (by decide) ?_)) <|
    .cons (.when (.crowded (by decide) (ownDetail_importers.append _))) <|
    .cons (.when (.crowded (by decide) (ownDetail_lightClients.append _))) <|
    .cons (.when (.crowded (by decide) ?_)) hinner
  all_goals try refine .invalid (by decide) ?_
  all_goals exact .ofList (by decide)

end Node

/-- The last steps to the fields of a node in a network that have rules. -/
def nodeSettings : List (FieldPath.Step × Option String) :=
  (.child "bootnode", none) :: (.child "name", none) :: Node.settings

/-- The slots of the rules on a node that stands at a place of a network. -/
def Node.places (n : Node) (i : Nat) : List Siblings :=
  ⟨nodeField i, nodeSettings⟩ :: n.innerPlaces (nodeField i)

namespace Network

/-- The slots of the rules on a network. -/
def places (n : Network) : List Siblings :=
  Chain.places ++ n.nodes.zipIdx.flatMap fun (node, i) => node.places i

/-- The first node may be reported, as any other one might be. -/
theorem within_firstIsBootnode (n : Network) :
    Within (n.nodes.zipIdx.flatMap fun e => [((nodeField e.2).child "bootnode", none)])
      n.firstIsBootnode := by
  rw [firstIsBootnode]
  split
  · next first second rest hnodes =>
    rw [hnodes]
    refine .of_mem (.when (.invalid (by decide) ?_)) List.mem_cons_self
    exact .ofList (by decide)
  · exact .nil _

/-- The rules on a network fill the slots of its chain and of its nodes, each node by its number. -/
theorem within_problems (n : Network) : Within (n.places.flatMap slots) n.problems := by
  let bootnode (e : Node × Nat) : List Slot := [((nodeField e.2).child "bootnode", none)]
  let name (e : Node × Nat) : List Slot := [((nodeField e.2).child "name", none)]
  let inner (e : Node × Nat) : List Slot :=
    (⟨nodeField e.2, Node.settings⟩ :: e.1.innerPlaces (nodeField e.2)).flatMap slots
  -- a name that stands twice is reported at the later node only
  have hnames : Within (n.nodes.zipIdx.flatMap name) n.uniqueNames :=
    .flatMap fun _ _ => .when (.duplicate (by decide))
  have hinner : Within (n.nodes.zipIdx.flatMap inner) n.nodeProblems :=
    .flatMap fun e _ => e.1.within_problems n.chain (nodeField e.2)
  -- what is said of one node stands in three parts of the report
  have hperm : (n.nodes.zipIdx.flatMap bootnode ++ n.nodes.zipIdx.flatMap name ++
      n.nodes.zipIdx.flatMap inner).Perm
        (n.nodes.zipIdx.flatMap fun e => bootnode e ++ name e ++ inner e) :=
    ((List.flatMap_append_perm n.nodes.zipIdx bootnode name).append_right _).trans
      (List.flatMap_append_perm n.nodes.zipIdx (fun e => bootnode e ++ name e) inner)
  have hnodes := ((n.within_firstIsBootnode.append hnames).append hinner).mono
    (le_of_eq (Multiset.coe_eq_coe.2 hperm))
  rw [places, List.flatMap_append, List.flatMap_assoc, problems, List.append_assoc,
    List.append_assoc, ← List.append_assoc n.firstIsBootnode]
  exact n.chain.within_problems.append hnodes

end Network

end Execution

/-! ## The other kinds -/

namespace Beacon

/-- The rule on an address fills the slot of its field. -/
theorem within_addressRule (path : FieldPath) {name : String} (hname : name ∉ crowdedNames)
    (s : String) : Within [(path.child name, none)] (addressRule (path.child name) s) :=
  .when (.invalid hname (.ofList (by decide)))

/-- The slots of the rules on a beacon node. -/
def Node.places : List Siblings :=
  [.fields .spec ["network", "executionEngineEndpoint", "jwtSecretName", "rest", "rpc", "grpc",
    "certSecretName", "checkpointSyncUrl", "logging"], Resources.places (field "resources")]

/-- The rules on a beacon node look at one field each. -/
theorem Node.within_problems (n : Node) : Within (places.flatMap slots) n.problems := by
  -- a setting that the client does not have, in whichever field it stands
  have hunsupported (name : String) (value : Violation.Value) (hname : name ∉ crowdedNames) :
      (unsupported name value n.client).Fills (field name, none) :=
    .invalid hname (OwnDetail.unsupported.append _)
  -- an address that is missing, or one that cannot be used
  have hengine : Within [(field "executionEngineEndpoint", none)] n.executionEngine := by
    rw [executionEngine]
    split
    · exact .single (.required (by decide))
    · exact within_addressRule .spec (by decide) _
  -- a client without checkpoints is not asked for the format of one
  have hcheckpoint : Within [(field "checkpointSyncUrl", none)] n.checkpointSync := by
    refine .ofSome fun url => ?_
    split
    · exact within_addressRule .spec (by decide) url
    · exact .single (hunsupported _ _ (by decide))
  rw [problems]
  simp only [List.append_assoc]
  exact .cons (.when (.required (by decide))) <| .cons hengine <|
    .cons (.when (.required (by decide))) <| .cons (.when (hunsupported _ _ (by decide))) <|
    .cons (.when (hunsupported _ _ (by decide))) <| .cons (.when (hunsupported _ _ (by decide))) <|
    .cons (.ofSome fun _ => .when (hunsupported _ _ (by decide))) <| .cons hcheckpoint <|
    .cons (nodeCapabilities.within_loggingRule _ _ .spec) (n.resources.within_problems _)

/-- The slots of the rules on a validator. -/
def Validator.places (v : Validator) : List Siblings :=
  [.fields .spec ["network", "beaconEndpoints", "walletPasswordSecret", "certSecretName",
      "feeRecipient", "logging"],
    .items (field "beaconEndpoints") v.beaconEndpoints.length,
    Resources.places (field "resources")]

/-- The rules on a validator look at one field each, but for the two on how many endpoints there
    are. -/
theorem Validator.within_problems (v : Validator) : Within (v.places.flatMap slots) v.problems := by
  -- there cannot be none and several
  have hcount : v.endpointsRequired = [] ∨ v.multipleEndpoints = [] := by
    cases hendpoints : v.beaconEndpoints <;>
      simp [endpointsRequired, multipleEndpoints, hendpoints]
  have hperm : (v.networkRequired ++ ((v.endpointsRequired ++ v.multipleEndpoints) ++
      (v.walletPassword ++ (v.tlsSupport ++ (v.feeRecipientFormat ++
      (validatorCapabilities.loggingRule v.client v.logging (field "logging") ++
      (v.endpointsFormat ++ v.resources.problems (field "resources")))))))).Perm v.problems := by
    simp only [problems, ← Multiset.coe_eq_coe, ← Multiset.coe_add]
    ac_rfl
  have hmultiple : OwnDetail
      ("multiple beacon node endpoints not supported by client " ++ v.client.name) :=
    OwnDetail.append (.ofList (by decide)) _
  have hformat : Within (Siblings.items (field "beaconEndpoints") v.beaconEndpoints.length).slots
      v.endpointsFormat :=
    .items fun _ _ => .when (.item (.ofList (by decide)))
  refine Within.perm ?_ hperm
  refine .cons (.when (.required (by decide))) <|
    .cons (.either (.when (.required (by decide))) (.when (.invalid (by decide) hmultiple))
      hcount) <|
    .cons (.when (.invalid (by decide) ?_)) <|
    .cons (.ofSome fun _ => .when (.invalid (by decide) (OwnDetail.unsupported.append _))) <|
    .cons (.ofSome fun _ => .when (.invalid (by decide) ?_)) <|
    .cons (validatorCapabilities.within_loggingRule _ _ .spec) <|
    hformat.append (v.resources.within_problems _)
  all_goals exact .ofList (by decide)

end Beacon

namespace Storage

/-- The slots of the rules on a peer. -/
def Peer.places : List Siblings :=
  [.fields .spec ["logging"], Resources.places (field "resources")]

/-- The rules on a peer are those on its logging and its resources. -/
theorem Peer.within_problems (p : Peer) : Within (places.flatMap slots) p.problems :=
  .cons (peerCapabilities.within_loggingRule _ _ .spec) (p.resources.within_problems _)

/-- The slots of the rules on a cluster peer. -/
def ClusterPeer.places (p : ClusterPeer) : List Siblings :=
  [.fields .spec ["peerEndpoint", "clusterSecretName", "privatekeySecretName", "id",
      "trustedPeers", "logging"],
    .items (field "bootstrapPeers") p.bootstrapPeers.length,
    Resources.places (field "resources")]

/-- The rules on a cluster peer look at one field each, and at each bootstrap peer. -/
theorem ClusterPeer.within_problems (p : ClusterPeer) :
    Within (p.places.flatMap slots) p.problems := by
  have hperm : (p.endpointRule ++ (p.secretRequired ++ (p.idRequiresKey ++ (p.keyRequiresId ++
      (p.trustedPeersRule ++
      (clusterCapabilities.loggingRule p.client p.logging (field "logging") ++
      (p.bootstrapFormat ++ p.resources.problems (field "resources")))))))).Perm p.problems := by
    simp only [problems, ← Multiset.coe_eq_coe, ← Multiset.coe_add]
    ac_rfl
  have haddress : OwnDetail "must be a valid multiaddress" :=
    .ofList (by decide)
  -- an endpoint that is missing, or one that is no multiaddress
  have hendpoint : Within [(field "peerEndpoint", none)] p.endpointRule := by
    rw [endpointRule]
    split
    · exact .single (.required (by decide))
    · exact .when (.invalid (by decide) haddress)
  have hbootstrap : Within (Siblings.items (field "bootstrapPeers") p.bootstrapPeers.length).slots
      p.bootstrapFormat :=
    .items fun _ _ => .when (.item haddress)
  refine Within.perm ?_ hperm
  refine .cons hendpoint <| .cons (.when (.required (by decide))) <|
    .cons (.when (.invalid (by decide) ?_)) <| .cons (.when (.invalid (by decide) ?_)) <|
    .cons (.when (.invalid (by decide) ?_)) <|
    .cons (clusterCapabilities.within_loggingRule _ _ .spec) <|
    hbootstrap.append (p.resources.within_problems _)
  all_goals exact .ofList (by decide)

end Storage

/-- The slots of the rules on an oracle node. -/
def Oracle.Node.places (n : Node) : List Siblings :=
  [.fields .spec ["linkContractAddress", "ethereumWsEndpoint", "databaseURL",
      "keystorePasswordSecretName", "logging"],
    .items (field "ethereumHttpEndpoints") n.ethereumHttpEndpoints.length,
    .fields (field "apiCredentials") ["email", "passwordSecretName"],
    Resources.places (field "resources")]

/-- The rules on an oracle node look at one field each, and at each endpoint. -/
theorem Oracle.Node.within_problems (n : Node) : Within (n.places.flatMap slots) n.problems := by
  have hperm : (n.linkContractFormat ++ (n.wsEndpointRule ++ (n.databaseRule ++
      (n.keystorePasswordRequired ++
      (capabilities.loggingRule n.client n.logging (field "logging") ++
      (n.httpEndpointsRule ++ (n.credentialsRule ++
      n.resources.problems (field "resources")))))))).Perm n.problems := by
    simp only [problems, ← Multiset.coe_eq_coe, ← Multiset.coe_add]
    ac_rfl
  have hhttp : Within
      (Siblings.items (field "ethereumHttpEndpoints") n.ethereumHttpEndpoints.length).slots
      n.httpEndpointsRule :=
    .items fun _ _ => .when (.item (.ofList (by decide)))
  -- two fields of the credentials, one behind the other
  have hcredentials : Within
      (Siblings.fields (field "apiCredentials") ["email", "passwordSecretName"]).slots
      n.credentialsRule := by
    refine .cons (.when (.invalid (by decide) ?_)) (.when (.required (by decide)))
    exact .ofList (by decide)
  refine Within.perm ?_ hperm
  refine .cons (.when (.invalid (by decide) ?_)) <| .cons (.when (.invalid (by decide) ?_)) <|
    .cons (.when (.invalid (by decide) ?_)) <| .cons (.when (.required (by decide))) <|
    .cons (capabilities.within_loggingRule _ _ .spec) <|
    hhttp.append <| hcredentials.append (n.resources.within_problems _)
  all_goals exact .ofList (by decide)

/-- The slots of the rules on an Aptos node. -/
def Aptos.Node.places : List Siblings :=
  [.fields .spec ["waypoint", "genesisConfigmapName", "nodePrivateKeySecretName", "peerId",
      "logging"],
    Resources.places (field "resources")]

/-- The rules on an Aptos node look at one field each. -/
theorem Aptos.Node.within_problems (n : Node) : Within (places.flatMap slots) n.problems := by
  rw [problems]
  simp only [List.append_assoc]
  refine .cons (.when (.required (by decide))) <| .cons (.when (.required (by decide))) <|
    .cons (.when (.invalid (by decide) ?_)) <| .cons (.when (.invalid (by decide) ?_)) <|
    .cons (capabilities.within_loggingRule _ _ .spec) (n.resources.within_problems _)
  all_goals exact .ofList (by decide)

/-! ## Every kind -/

namespace Spec

/-- The slots of the rules on a spec. -/
def places : Spec → List Siblings
  | network s => s.places
  | beaconNode _ => Beacon.Node.places
  | validator s => s.places
  | peer _ => Storage.Peer.places
  | clusterPeer s => s.places
  | chainlinkNode s => s.places
  | aptosNode _ => Aptos.Node.places

/-- The report on a spec fills each slot of its kind at most once. -/
theorem within_problems (s : Spec) : Within (s.places.flatMap slots) s.problems := by
  cases s with
  | network s => exact s.within_problems
  | beaconNode s => exact s.within_problems
  | validator s => exact s.within_problems
  | peer s => exact s.within_problems
  | clusterPeer s => exact s.within_problems
  | chainlinkNode s => exact s.within_problems
  | aptosNode s => exact s.within_problems

end Spec

end Nodewright
