import Mathlib.Data.List.Basic
import Nodewright.Proofs.Admission.History
import Nodewright.Proofs.Capability

/-!
# What a beacon node is told

The command lines of the clients of beacon nodes say the same things in different words, and none
of them says everything: a client has no word for what it cannot do. The rules turn down what the
client of a node has no word for, so nothing that is set in an admitted node is left unsaid.

## Key results

- `Node.Has`: what is set in a node
- `Client.phrases`: the words of a client for it
- `Node.says_of_has`: a client is told what is set, if the node keeps the rules
- `Node.told_of_admission`: so every admitted node is told everything
-/

namespace Nodewright.Beacon

open Arguments

/-! ## Facts and their words -/

/-- Something that a beacon node is told. -/
inductive Fact where
  | network (name : String)
  | executionEngine (url : String)
  /-- The file of the secret that is shared with the execution node. -/
  | jwtSecret
  | p2pPort (p : UInt16)
  | logging (level : Verbosity)
  | rest (host : String) (p : UInt16)
  | rpc (host : String) (p : UInt16)
  | grpc (host : String) (p : UInt16)
  | checkpoint (url : String)
  /-- The files of the certificate and of its key. -/
  | certificate

/-- Whether a fact is set in a node. -/
def Node.Has (n : Node) : Fact → Prop
  | .network name => n.network = name
  | .executionEngine url => n.executionEngineEndpoint = some url
  | .jwtSecret => n.jwtSecretName.isSome
  | .p2pPort p => n.p2pPort = some p
  | .logging level => n.logging = some level
  | .rest host p => n.rest = ⟨true, some host, some p⟩
  | .rpc host p => n.rpc = ⟨true, some host, some p⟩
  | .grpc host p => n.grpc = ⟨true, some host, some p⟩
  | .checkpoint url => n.checkpointSyncUrl = some url
  | .certificate => n.certSecretName.isSome

/-- The words of Teku for a fact. -/
def Teku.phrases : Fact → List (List String)
  | .network name => [["--network", name]]
  | .executionEngine url => [["--ee-endpoint", url]]
  | .jwtSecret => [["--ee-jwt-secret-file", Home.secret home "jwt.secret"]]
  | .p2pPort p => [["--p2p-port", port p]]
  | .logging level => [["--logging", level.upperName]]
  | .rest host p =>
    [["--rest-api-enabled"], ["--rest-api-interface", host], ["--rest-api-port", port p]]
  | .checkpoint url => [["--initial-state", url]]
  | .rpc .. | .grpc .. | .certificate => []

/-- The words of Prysm for a fact. -/
def Prysm.phrases : Fact → List (List String)
  | .network name => [["--" ++ name]]
  | .executionEngine url => [["--execution-endpoint", url]]
  | .jwtSecret => [["--jwt-secret", Home.secret home "jwt.secret"]]
  | .p2pPort p => [["--p2p-tcp-port", port p], ["--p2p-udp-port", port p]]
  | .logging level => [["--verbosity", level.name]]
  | .rpc host p => [["--rpc-host", host], ["--rpc-port", port p]]
  | .grpc host p => [["--grpc-gateway-host", host], ["--grpc-gateway-port", port p]]
  | .checkpoint url => [["--checkpoint-sync-url", url], ["--genesis-beacon-api-url", url]]
  | .certificate =>
    [["--tls-cert", Home.secret home "cert/tls.crt"],
      ["--tls-key", Home.secret home "cert/tls.key"]]
  | .rest .. => []

/-- The words of Lighthouse for a fact. -/
def Lighthouse.phrases : Fact → List (List String)
  | .network name => [["--network", name]]
  | .executionEngine url => [["--execution-endpoint", url]]
  | .jwtSecret => [["--execution-jwt", Home.secret home "jwt.secret"]]
  | .p2pPort p => [["--port", port p]]
  | .logging level => [["--debug-level", level.name]]
  | .rest host p => [["--http"], ["--http-address", host], ["--http-port", port p]]
  | .checkpoint url => [["--checkpoint-sync-url", url]]
  | .rpc .. | .grpc .. | .certificate => []

/-- The words of Nimbus for a fact. A flag and its value are one word. -/
def Nimbus.phrases : Fact → List (List String)
  | .network name => [[assigned "--network" name]]
  | .executionEngine url => [[assigned "--web3-url" url]]
  | .jwtSecret => [[assigned "--jwt-secret" (Home.secret home "jwt.secret")]]
  | .p2pPort p => [[assigned "--tcp-port" (port p)], [assigned "--udp-port" (port p)]]
  | .logging level => [[assigned "--log-level" level.upperName]]
  | .rest host p =>
    [["--rest"], [assigned "--rest-address" host], [assigned "--rest-port" (port p)]]
  | .rpc .. | .grpc .. | .checkpoint _ | .certificate => []

/-- The words of a client for a fact: phrases, each of which stands on the command line in one
    piece. There are none for what the client cannot do. -/
def Client.phrases : Client → Fact → List (List String)
  | teku => Teku.phrases
  | prysm => Prysm.phrases
  | lighthouse => Lighthouse.phrases
  | nimbus => Nimbus.phrases

/-- A command line says a fact in the words of a client. -/
def Client.Says (client : Client) (args : List String) (fact : Fact) : Prop :=
  client.phrases fact ≠ [] ∧ ∀ phrase ∈ client.phrases fact, phrase <:+: args

/-! ## Command lines in pieces -/

/-- The pieces of which the command line of Teku is put together. -/
def Teku.nodePieces (n : Node) : List (List String) :=
  let rest := when n.rest.enabled
  [["--data-path", Home.data home],
    given "--p2p-port" (n.p2pPort.map port),
    ["--network", n.network],
    given "--ee-endpoint" n.executionEngineEndpoint,
    when n.jwtSecretName.isSome ["--ee-jwt-secret-file", Home.secret home "jwt.secret"],
    given "--initial-state" n.checkpointSyncUrl,
    rest ["--rest-api-enabled"],
    rest (given "--rest-api-port" (n.rest.port.map port)),
    rest (given "--rest-api-interface" n.rest.host),
    rest (listed "--rest-api-cors-origins" n.corsDomains),
    rest (listed "--rest-api-host-allowlist" n.hosts),
    given "--logging" (n.logging.map Verbosity.upperName)]

/-- The pieces make up the command line. -/
theorem Teku.flatten_nodePieces (n : Node) : (nodePieces n).flatten = nodeArgs n := by
  cases h : n.rest.enabled <;> simp [nodePieces, nodeArgs, restArgs, when, h]

/-- What is set in a node has its phrases among the pieces. -/
theorem Teku.phrases_subset (n : Node) (fact : Fact) (h : n.Has fact) :
    phrases fact ⊆ nodePieces n := by
  cases fact <;> simp only [Node.Has] at h <;> simp [phrases, nodePieces, given, when, h]

/-- The pieces of which the command line of Prysm is put together. -/
def Prysm.nodePieces (n : Node) : List (List String) :=
  [["--accept-terms-of-use"],
    ["--datadir", Home.data home],
    [networkFlag n.network],
    given "--execution-endpoint" n.executionEngineEndpoint,
    when n.jwtSecretName.isSome ["--jwt-secret", Home.secret home "jwt.secret"],
    given "--checkpoint-sync-url" n.checkpointSyncUrl,
    given "--genesis-beacon-api-url" n.checkpointSyncUrl,
    given "--p2p-tcp-port" (n.p2pPort.map port),
    given "--p2p-udp-port" (n.p2pPort.map port),
    when n.rpc.enabled (given "--rpc-host" n.rpc.host),
    when n.rpc.enabled (given "--rpc-port" (n.rpc.port.map port)),
    when n.grpc.enabled (given "--grpc-gateway-host" n.grpc.host),
    when n.grpc.enabled (given "--grpc-gateway-port" (n.grpc.port.map port)),
    when n.grpc.enabled (listed "--grpc-gateway-corsdomain" n.corsDomains),
    when (!n.grpc.enabled) ["--disable-grpc-gateway"],
    when n.certSecretName.isSome ["--tls-cert", certFile],
    when n.certSecretName.isSome ["--tls-key", keyFile],
    given "--verbosity" (n.logging.map Verbosity.name)]

/-- The pieces make up the command line, where three of its parts hold two pieces each. -/
theorem Prysm.flatten_nodePieces (n : Node) : (nodePieces n).flatten = nodeArgs n := by
  -- what is given twice, under two flags, is given in one piece
  have hcheckpoint : checkpointArgs n = given "--checkpoint-sync-url" n.checkpointSyncUrl ++
      given "--genesis-beacon-api-url" n.checkpointSyncUrl := by
    rw [checkpointArgs]
    cases n.checkpointSyncUrl <;> rfl
  have hp2p : p2pArgs n = given "--p2p-tcp-port" (n.p2pPort.map port) ++
      given "--p2p-udp-port" (n.p2pPort.map port) := by
    rw [p2pArgs]
    cases n.p2pPort <;> rfl
  have htls (given : Bool) : when given ["--tls-cert", certFile, "--tls-key", keyFile] =
      when given ["--tls-cert", certFile] ++ when given ["--tls-key", keyFile] := by
    cases given <;> rfl
  rw [nodeArgs, hcheckpoint, hp2p, htls]
  cases hrpc : n.rpc.enabled <;> cases hgrpc : n.grpc.enabled <;>
    simp [nodePieces, rpcArgs, grpcArgs, when, hrpc, hgrpc]

theorem Prysm.phrases_subset (n : Node) (fact : Fact) (h : n.Has fact) :
    phrases fact ⊆ nodePieces n := by
  cases fact <;> simp only [Node.Has] at h <;>
    simp [phrases, nodePieces, networkFlag, certFile, keyFile, given, when, h]

/-- The pieces of which the command line of Lighthouse is put together. -/
def Lighthouse.nodePieces (n : Node) : List (List String) :=
  [["--datadir", Home.data home],
    ["--network", n.network],
    given "--execution-endpoint" n.executionEngineEndpoint,
    when n.jwtSecretName.isSome ["--execution-jwt", Home.secret home "jwt.secret"],
    given "--checkpoint-sync-url" n.checkpointSyncUrl,
    given "--port" (n.p2pPort.map port),
    when n.rest.enabled ["--http"],
    when n.rest.enabled (given "--http-address" n.rest.host),
    when n.rest.enabled (given "--http-port" (n.rest.port.map port)),
    when n.rest.enabled (listed "--http-allow-origin" n.corsDomains),
    given "--debug-level" (n.logging.map Verbosity.name)]

theorem Lighthouse.flatten_nodePieces (n : Node) : (nodePieces n).flatten = nodeArgs n := by
  cases h : n.rest.enabled <;> simp [nodePieces, nodeArgs, restArgs, when, h]

theorem Lighthouse.phrases_subset (n : Node) (fact : Fact) (h : n.Has fact) :
    phrases fact ⊆ nodePieces n := by
  cases fact <;> simp only [Node.Has] at h <;> simp [phrases, nodePieces, given, when, h]

/-- The pieces of which the command line of Nimbus is put together. -/
def Nimbus.nodePieces (n : Node) : List (List String) :=
  [["--non-interactive"],
    [assigned "--data-dir" (Home.data home)],
    [assigned "--network" n.network],
    assignedIf "--web3-url" n.executionEngineEndpoint,
    when n.jwtSecretName.isSome [assigned "--jwt-secret" (Home.secret home "jwt.secret")],
    assignedIf "--tcp-port" (n.p2pPort.map port),
    assignedIf "--udp-port" (n.p2pPort.map port),
    when n.rest.enabled ["--rest"],
    when n.rest.enabled (assignedIf "--rest-address" n.rest.host),
    when n.rest.enabled (assignedIf "--rest-port" (n.rest.port.map port)),
    when (n.rest.enabled && !n.corsDomains.isEmpty)
      [assigned "--rest-allow-origin" (Text.joinWith "," n.corsDomains)],
    assignedIf "--log-level" (n.logging.map Verbosity.upperName)]

/-- The pieces make up the command line, where one of its parts holds two pieces. -/
theorem Nimbus.flatten_nodePieces (n : Node) : (nodePieces n).flatten = nodeArgs n := by
  have hp2p : p2pArgs n = assignedIf "--tcp-port" (n.p2pPort.map port) ++
      assignedIf "--udp-port" (n.p2pPort.map port) := by
    rw [p2pArgs]
    cases n.p2pPort <;> rfl
  rw [nodeArgs, hp2p]
  cases h : n.rest.enabled <;> simp [nodePieces, restArgs, when, h]

theorem Nimbus.phrases_subset (n : Node) (fact : Fact) (h : n.Has fact) :
    phrases fact ⊆ nodePieces n := by
  cases fact <;> simp only [Node.Has] at h <;>
    simp [phrases, nodePieces, assignedIf, when, h]

/-- Whatever the client, its words for what is set in a node stand on the command line. -/
theorem Client.infix_nodeArgs {client : Client} {n : Node} {fact : Fact} (h : n.Has fact)
    {phrase : List String} (hphrase : phrase ∈ client.phrases fact) :
    phrase <:+: (client.nodeLaunch n).args := by
  have hflatten {pieces : List (List String)} {args : List String}
      (hargs : pieces.flatten = args) (hsubset : client.phrases fact ⊆ pieces) :
      phrase <:+: args := by
    rw [← hargs]
    exact List.infix_of_mem_flatten (hsubset hphrase)
  cases client with
  | teku => exact hflatten (Teku.flatten_nodePieces n) (Teku.phrases_subset n fact h)
  | prysm => exact hflatten (Prysm.flatten_nodePieces n) (Prysm.phrases_subset n fact h)
  | lighthouse =>
    exact hflatten (Lighthouse.flatten_nodePieces n) (Lighthouse.phrases_subset n fact h)
  | nimbus => exact hflatten (Nimbus.flatten_nodePieces n) (Nimbus.phrases_subset n fact h)

/-! ## The registry and the words -/

/-- What a client must be able to do to have words for a fact. -/
def Fact.feature? : Fact → Option Feature
  | .rest .. => some .rest
  | .rpc .. => some .rpc
  | .grpc .. => some .grpc
  | .checkpoint _ => some .checkpointSync
  | .certificate => some .tls
  | _ => none

/-- The registry and the command lines agree: a client has words for what it can do, and only for
    that. -/
theorem Client.phrases_ne_nil_iff {client : Client} {fact : Fact} :
    client.phrases fact ≠ [] ↔ ∀ feature, fact.feature? = some feature →
      nodeCapabilities.supports client feature = true := by
  cases fact <;> simp only [Fact.feature?, Option.some.injEq, forall_eq', reduceCtorEq] <;>
    cases client <;>
      simp [phrases, Teku.phrases, Prysm.phrases, Lighthouse.phrases, Nimbus.phrases] <;> decide

namespace Node

variable {n : Node} {fact : Fact}

/-- The rules turn down what the client has no words for. -/
theorem supports_of_has (hrules : n.problems = []) (h : n.Has fact) (feature : Feature)
    (hfeature : fact.feature? = some feature) : n.supports feature = true := by
  simp only [problems, List.append_eq_nil_iff, endpointSupport, tlsSupport, checkpointSync,
    Report.when_eq_nil, Report.ofSome_eq_nil_iff, Bool.and_eq_false_imp,
    Bool.not_eq_false'] at hrules
  -- each feature has a rule that reports it where the client does not support it
  obtain ⟨⟨⟨⟨⟨⟨⟨-, hrest⟩, hrpc⟩, hgrpc⟩, htls⟩, hcheckpoint⟩, -⟩, -⟩ := hrules
  cases fact with
  | rest host p => cases hfeature; exact hrest (congrArg Endpoint.enabled h)
  | rpc host p => cases hfeature; exact hrpc (congrArg Endpoint.enabled h)
  | grpc host p => cases hfeature; exact hgrpc (congrArg Endpoint.enabled h)
  | certificate =>
    cases hfeature
    obtain ⟨cert, hcert⟩ := Option.isSome_iff_exists.1 h
    exact htls cert hcert
  | checkpoint url =>
    cases hfeature
    -- without the feature the rule reports the address, whatever it is
    have hrule := hcheckpoint url h
    by_contra hno
    rw [if_neg hno] at hrule
    exact List.cons_ne_nil _ _ hrule
  | _ => cases hfeature

/-- The client of a node that keeps the rules is told all that is set in the node. -/
theorem says_of_has (hrules : n.problems = []) (h : n.Has fact) :
    n.client.Says (n.client.nodeLaunch n).args fact :=
  ⟨Client.phrases_ne_nil_iff.2 (supports_of_has hrules h), fun _ => Client.infix_nodeArgs h⟩

/-! ## What is set in an admitted node -/

/-- Nothing is missing in a node of what its client has to be told. -/
structure Complete (n : Node) : Prop where
  executionEngine : ∃ url, n.Has (.executionEngine url)
  jwtSecret : n.Has .jwtSecret
  p2pPort : ∃ p, n.Has (.p2pPort p)
  logging : ∃ level, n.Has (.logging level)
  rest : n.rest.enabled = true → ∃ host p, n.Has (.rest host p)
  rpc : n.rpc.enabled = true → ∃ host p, n.Has (.rpc host p)
  grpc : n.grpc.enabled = true → ∃ host p, n.Has (.grpc host p)

/-- The rules ask for an execution node and a secret, and filling puts in the rest. -/
theorem complete_fill {images : Image.Overrides} (hrules : (n.fill images).problems = []) :
    (n.fill images).Complete := by
  simp only [problems, List.append_eq_nil_iff] at hrules
  obtain ⟨⟨⟨⟨⟨⟨⟨⟨⟨-, hengine⟩, hjwt⟩, -⟩, -⟩, -⟩, -⟩, -⟩, -⟩, -⟩ := hrules
  -- an interface that is offered has a host and a port once it is filled
  have hendpoint {e : Endpoint} {usual : UInt16} (he : (e.fill usual).enabled = true) :
      ∃ host p, e.fill usual = ⟨true, some host, some p⟩ := by
    rw [Endpoint.enabled_fill] at he
    exact ⟨_, _, by rw [Endpoint.fill, if_pos he, he]⟩
  refine ⟨?_, ?_, ⟨_, rfl⟩, ⟨_, rfl⟩, hendpoint, hendpoint, hendpoint⟩
  · rw [executionEngine] at hengine
    split at hengine
    · exact absurd hengine (List.cons_ne_nil _ _)
    · next url hurl => exact ⟨url, hurl⟩
  · rw [jwtSecretRequired, Report.when_eq_nil] at hjwt
    exact Option.isSome_iff_ne_none.2 fun hnone => by simp [hnone] at hjwt

/-- An admitted node has one workload, whose command line says all that is set in the filled node
    in the words of its client; and nothing that the client has to be told is missing. -/
theorem told_of_admission {images : Image.Overrides} {old : Option Manifest} {name : String}
    {a : Admitted} (h : Manifest.admission images old ⟨name, .beaconNode n⟩ = .ok a) :
    ∃ w, a.workloads = [w] ∧ (n.fill images).Complete ∧
      ∀ fact, (n.fill images).Has fact → n.client.Says w.launch.args fact := by
  have hrules : (n.fill images).problems = [] := (Manifest.problems_eq_nil_of_admission h).2
  obtain ⟨-, rfl⟩ := Manifest.admission_eq_ok_iff.1 h
  exact ⟨_, rfl, complete_fill hrules, fun fact => says_of_has hrules⟩

/-- A node of Prysm that starts from a checkpoint and offers all its interfaces. -/
def sample : Node where
  client := .prysm
  image := none
  network := "mainnet"
  executionEngineEndpoint := some "ipc:/run/geth.ipc"
  jwtSecretName := some "jwt"
  checkpointSyncUrl := some "file:///srv/checkpoint.ssz"
  rest := .off
  rpc := ⟨true, none, some 4001⟩
  grpc := ⟨true, some "127.0.0.1", none⟩
  p2pPort := none
  certSecretName := some "cert"
  hosts := []
  corsDomains := []
  logging := some .panic
  resources := .none

/-- Its client is told where the interfaces listen, and where the certificate is. -/
theorem told_of_admission_sample :
    ∃ a w, Manifest.admission .none none ⟨"beacon", .beaconNode sample⟩ = .ok a ∧
      a.workloads = [w] ∧
      Client.prysm.Says w.launch.args (.rpc "0.0.0.0" 4001) ∧
      Client.prysm.Says w.launch.args (.grpc "127.0.0.1" 3500) ∧
      Client.prysm.Says w.launch.args .certificate := by
  have hadmission : Manifest.admission .none none ⟨"beacon", .beaconNode sample⟩ = .ok _ :=
    Manifest.admission_eq_ok_iff.2 ⟨by decide +kernel, rfl⟩
  obtain ⟨w, hw, -, hsays⟩ := told_of_admission hadmission
  exact ⟨_, w, hadmission, hw, hsays _ rfl, hsays _ rfl, hsays _ rfl⟩

end Node

end Nodewright.Beacon
