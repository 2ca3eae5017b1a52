import Nodewright.Admission
import Nodewright.Proofs.Admission.History
import Nodewright.Proofs.Execution.NodeMaps

/-!
# Settings of features that are not in use

A spec may say where an interface listens that it does not offer, or on which port an oracle node
answers with a certificate that it does not have. Such settings are idle: no rule looks at them, and
no argument or variable of a launch is made from them, so manifests that differ in idle settings
only are admitted alike.

## Key results

- `Manifest.hideIdle`: what is left without idle settings
- `Endpoint.hideIdle_eq_iff` and its like: when two features are left with the same
- `Spec.hideIdle_fill`: filling makes nothing of an idle setting
- `Spec.problems_hideIdle`, `Spec.changeProblems_hideIdle`, `Spec.workloads_hideIdle`: neither do
  the rules, nor the clients
- `Manifest.admission_of_hideIdle`: admission of manifests that differ in idle settings only
-/

namespace Nodewright

/-! ## What is left without idle settings -/

/-- An interface without its settings, unless it is offered. -/
def Endpoint.hideIdle (e : Endpoint) : Endpoint := if e.enabled then e else off

/-- An interface without its settings and groups of calls, unless it is offered. -/
def Execution.CallEndpoint.hideIdle (e : CallEndpoint) : CallEndpoint :=
  if e.endpoint.enabled then e else ⟨.off, []⟩

/-- A node without its idle settings. -/
def Execution.Node.hideIdle (n : Execution.Node) : Execution.Node :=
  { n with rpc := n.rpc.hideIdle, ws := n.ws.hideIdle, graphql := n.graphql.hideIdle }

/-- A beacon node without its idle settings. -/
def Beacon.Node.hideIdle (n : Beacon.Node) : Beacon.Node :=
  { n with rest := n.rest.hideIdle, rpc := n.rpc.hideIdle, grpc := n.grpc.hideIdle }

/-- An oracle node without the port to prove itself on, unless it has a certificate. -/
def Oracle.Node.hideIdle (n : Oracle.Node) : Oracle.Node :=
  { n with tlsPort := if n.certSecretName.isSome then n.tlsPort else none }

/-- An Aptos node without its idle settings. -/
def Aptos.Node.hideIdle (n : Aptos.Node) : Aptos.Node := { n with api := n.api.hideIdle }

/-- A spec without its idle settings. -/
def Spec.hideIdle : Spec → Spec
  | network s => network (s.mapNodes Execution.Node.hideIdle)
  | beaconNode s => beaconNode s.hideIdle
  | chainlinkNode s => chainlinkNode s.hideIdle
  | aptosNode s => aptosNode s.hideIdle
  | s => s

/-- A manifest without its idle settings. Manifests are left with the same if they differ in idle
    settings only. -/
def Manifest.hideIdle (m : Manifest) : Manifest := { m with spec := m.spec.hideIdle }

/-- What admission gives, without the idle settings of the manifest that is kept. -/
def Admitted.hideIdle (a : Admitted) : Admitted := { a with manifest := a.manifest.hideIdle }

/-! ## Features in use and features that are not -/

/-- Where all that is not in use is replaced by the same, two things become the same if they are the
    same, or neither is in use. -/
theorem ite_idle_eq_iff {α : Type} (inUse : α → Bool) {idle a b : α} (hidle : inUse idle = false) :
    ((if inUse a then a else idle) = if inUse b then b else idle) ↔
      a = b ∨ inUse a = false ∧ inUse b = false := by
  -- what is in use differs from what is not, and so from what stands for all of it
  have hne {a b : α} (ha : inUse a = true) (hb : inUse b = false) : a ≠ b := by
    rintro rfl
    exact absurd (ha.symm.trans hb) (by decide)
  cases ha : inUse a with
  | true =>
    cases hb : inUse b with
    | true => simp
    | false => simp [hne ha hb, hne ha hidle]
  | false =>
    cases hb : inUse b with
    | true => simp [(hne hb ha).symm, (hne hb hidle).symm]
    | false => simp

namespace Endpoint

variable {e f : Endpoint}

/-- An interface that is offered is left as it is. -/
@[simp] theorem hideIdle_of_enabled (h : e.enabled = true) : e.hideIdle = e := if_pos h

/-- All interfaces that are not offered become the same. -/
theorem hideIdle_of_disabled (h : e.enabled = false) : e.hideIdle = off := if_neg (by simp [h])

/-- Whether an interface is offered is still to be seen. -/
@[simp] theorem enabled_hideIdle (e : Endpoint) : e.hideIdle.enabled = e.enabled := by
  cases h : e.enabled with
  | true => rw [hideIdle_of_enabled h, h]
  | false => rw [hideIdle_of_disabled h]; rfl

/-- Interfaces are left with the same if they are the same, or neither is offered. -/
theorem hideIdle_eq_iff :
    e.hideIdle = f.hideIdle ↔ e = f ∨ e.enabled = false ∧ f.enabled = false :=
  ite_idle_eq_iff Endpoint.enabled rfl

/-- An interface that is not offered is not filled. -/
theorem fill_hideIdle (port : UInt16) (e : Endpoint) :
    (e.hideIdle.fill port).hideIdle = (e.fill port).hideIdle := by
  cases h : e.enabled with
  | true => rw [hideIdle_of_enabled h]
  | false => rw [hideIdle_of_disabled h, fill_of_disabled h, hideIdle_of_disabled h]; rfl

end Endpoint

namespace Execution.CallEndpoint

variable {e f : CallEndpoint}

/-- An interface for calls that is offered is left as it is. -/
@[simp] theorem hideIdle_of_enabled (h : e.endpoint.enabled = true) : e.hideIdle = e := if_pos h

/-- All interfaces for calls that are not offered become the same, with no groups of calls. -/
theorem hideIdle_of_disabled (h : e.endpoint.enabled = false) : e.hideIdle = ⟨.off, []⟩ :=
  if_neg (by simp [h])

/-- Whether an interface for calls is offered is still to be seen. -/
@[simp] theorem enabled_hideIdle (e : CallEndpoint) :
    e.hideIdle.endpoint.enabled = e.endpoint.enabled := by
  cases h : e.endpoint.enabled with
  | true => rw [hideIdle_of_enabled h, h]
  | false => rw [hideIdle_of_disabled h]; rfl

/-- Interfaces are left with the same if they are the same, or neither is offered. -/
theorem hideIdle_eq_iff :
    e.hideIdle = f.hideIdle ↔
      e = f ∨ e.endpoint.enabled = false ∧ f.endpoint.enabled = false :=
  ite_idle_eq_iff (fun e : CallEndpoint => e.endpoint.enabled) rfl

/-- An interface that is not offered is not filled. -/
theorem fill_hideIdle (port : UInt16) (e : CallEndpoint) :
    (e.hideIdle.fill port).hideIdle = (e.fill port).hideIdle := by
  cases h : e.endpoint.enabled with
  | true => rw [hideIdle_of_enabled h]
  | false =>
    have hfill : (e.fill port).endpoint.enabled = false :=
      (Endpoint.enabled_fill port e.endpoint).trans h
    rw [hideIdle_of_disabled h, hideIdle_of_disabled hfill]
    rfl

end Execution.CallEndpoint

/-! ## Filling -/

section Filling

variable (images : Image.Overrides)

/-- Origins are put in for interfaces that are offered. -/
theorem Execution.Node.hideIdle_fill (n : Node) :
    (n.hideIdle.fill images).hideIdle = (n.fill images).hideIdle := by
  -- whether origins are asked for depends on which interfaces are offered
  have hserves : n.hideIdle.servesApi = n.servesApi := by simp [servesApi, hideIdle]
  have horigins (origins : List String) : n.hideIdle.originsOr origins = n.originsOr origins := by
    rw [originsOr, originsOr, hserves]
  have hrpc := CallEndpoint.fill_hideIdle 8545 n.rpc
  have hws := CallEndpoint.fill_hideIdle 8546 n.ws
  have hgraphql := Endpoint.fill_hideIdle 8547 n.graphql
  simp only [fill, horigins]
  simp only [hideIdle, hrpc, hws, hgraphql]

/-- Origins and addresses are put in for the interfaces of a beacon node that are offered. -/
theorem Beacon.Node.hideIdle_fill (n : Node) :
    (n.hideIdle.fill images).hideIdle = (n.fill images).hideIdle := by
  have hserves : n.hideIdle.servesApi = n.servesApi := by simp [servesApi, hideIdle]
  have horigins (origins : List String) : n.hideIdle.originsOr origins = n.originsOr origins := by
    rw [originsOr, originsOr, hserves]
  have hrest := Endpoint.fill_hideIdle 5051 n.rest
  have hrpc := Endpoint.fill_hideIdle 4000 n.rpc
  have hgrpc := Endpoint.fill_hideIdle 3500 n.grpc
  simp only [fill, horigins]
  simp only [hideIdle, hrest, hrpc, hgrpc]

/-- A port is put in with a certificate and without one. -/
theorem Oracle.Node.hideIdle_fill (n : Node) :
    (n.hideIdle.fill images).hideIdle = (n.fill images).hideIdle := by
  cases h : n.certSecretName <;> simp [fill, hideIdle, h]

/-- An Aptos node has one interface, which is filled if it is offered. -/
theorem Aptos.Node.hideIdle_fill (n : Node) :
    (n.hideIdle.fill images).hideIdle = (n.fill images).hideIdle := by
  have hapi := Endpoint.fill_hideIdle 8080 n.api
  simp only [fill, hideIdle, hapi]

/-- Nothing that is in use is filled in from an idle setting. -/
theorem Spec.hideIdle_fill (s : Spec) :
    (s.hideIdle.fill images).hideIdle = (s.fill images).hideIdle := by
  cases s with
  | network s =>
    have hnodes : ((s.nodes.map Execution.Node.hideIdle).map (Execution.Node.fill images)).map
        Execution.Node.hideIdle =
          (s.nodes.map (Execution.Node.fill images)).map Execution.Node.hideIdle := by
      rw [List.map_map, List.map_map, List.map_map]
      exact List.map_congr_left fun n _ => n.hideIdle_fill images
    simp only [hideIdle, fill, Execution.Network.mapNodes, Execution.Network.fill, hnodes]
  | beaconNode s => exact congrArg beaconNode (s.hideIdle_fill images)
  | chainlinkNode s => exact congrArg chainlinkNode (s.hideIdle_fill images)
  | aptosNode s => exact congrArg aptosNode (s.hideIdle_fill images)
  | _ => rfl

end Filling

/-! ## Rules -/

namespace Execution.Node

/-- The rules on interfaces ask whether they are offered, and nothing else. -/
theorem problems_hideIdle (c : Chain) (n : Node) (path : FieldPath) :
    n.hideIdle.problems c path = n.problems c path := by
  -- three of the rules look at interfaces, and only at whether they are offered
  have himport : importExcludesEndpoints c n.hideIdle path = importExcludesEndpoints c n path := by
    simp only [importExcludesEndpoints, hideIdle, CallEndpoint.enabled_hideIdle,
      Endpoint.enabled_hideIdle]
  have hgraphql : graphqlSupport c n.hideIdle path = graphqlSupport c n path := by
    simp only [graphqlSupport, hideIdle, Endpoint.enabled_hideIdle]
    rfl
  have hgeth : gethGraphqlRequiresRpc c n.hideIdle path = gethGraphqlRequiresRpc c n path := by
    simp only [gethGraphqlRequiresRpc, hideIdle, CallEndpoint.enabled_hideIdle,
      Endpoint.enabled_hideIdle]
    rfl
  simp only [problems, rules, List.flatMap_cons, himport, hgraphql, hgeth]
  rfl

/-- Idle settings of a node are noticed neither by the rules on its network nor by its own. -/
theorem unnoticed_hideIdle : Unnoticed hideIdle :=
  ⟨fun _ => rfl, fun _ => rfl, fun _ => rfl, problems_hideIdle⟩

end Execution.Node

/-- The rules on interfaces of a beacon node ask whether they are offered. -/
theorem Beacon.Node.problems_hideIdle (n : Node) : n.hideIdle.problems = n.problems := by
  -- one rule for each interface that not every client has
  have hsupport (name : String) (e : Endpoint) (feature : Feature) :
      n.hideIdle.endpointSupport name e.hideIdle feature = n.endpointSupport name e feature := by
    simp only [endpointSupport, Endpoint.enabled_hideIdle]
    rfl
  have hrest := hsupport "rest" n.rest .rest
  have hrpc := hsupport "rpc" n.rpc .rpc
  have hgrpc := hsupport "grpc" n.grpc .grpc
  rw [problems, problems, ← hrest, ← hrpc, ← hgrpc]
  rfl

namespace Spec

/-- No rule on a spec by itself looks at an idle setting. -/
theorem problems_hideIdle (s : Spec) : s.hideIdle.problems = s.problems := by
  cases s with
  | network s => exact s.problems_mapNodes Execution.Node.unnoticed_hideIdle
  | beaconNode s => exact s.problems_hideIdle
  | _ => rfl

/-- Nor does a rule on changes. -/
theorem changeProblems_hideIdle (old new : Spec) :
    old.changeProblems new.hideIdle = old.changeProblems new := by
  cases old with
  | network old =>
    cases new with
    | network new =>
      have hproblems := new.problems_mapNodes Execution.Node.unnoticed_hideIdle
      have htransitions := Execution.Network.transitions_mapNodes .id
        Execution.Node.unnoticed_hideIdle old new
      rw [Execution.Network.mapNodes_id] at htransitions
      exact congrArg₂ (· ++ ·) hproblems htransitions
    | _ => rfl
  | beaconNode old =>
    cases new with
    | beaconNode new => exact congrArg (· ++ old.transitions new) new.problems_hideIdle
    | _ => rfl
  | _ => cases new <;> rfl

end Spec

/-! ## Clients -/

namespace Execution

variable (n : Node)

/-- Besu is told about interfaces that are offered. -/
theorem Besu.args_hideIdle (c : Chain) : args c n.hideIdle = args c n := by
  -- the arguments of an interface stand behind the switch that offers it
  have hrpc : rpcArgs n.hideIdle = rpcArgs n := by
    cases h : n.rpc.endpoint.enabled <;> simp [rpcArgs, Node.hideIdle, Arguments.when, h]
  have hws : wsArgs n.hideIdle = wsArgs n := by
    cases h : n.ws.endpoint.enabled <;> simp [wsArgs, Node.hideIdle, Arguments.when, h]
  have hgraphql : graphqlArgs n.hideIdle = graphqlArgs n := by
    cases h : n.graphql.enabled <;> simp [graphqlArgs, Node.hideIdle, Arguments.when, h]
  rw [args, args, hrpc, hws, hgraphql]
  rfl

/-- So is Geth. -/
theorem Geth.args_hideIdle (c : Chain) : args c n.hideIdle = args c n := by
  have hrpc : rpcArgs n.hideIdle = rpcArgs n := by
    cases h : n.rpc.endpoint.enabled <;> simp [rpcArgs, Node.hideIdle, Arguments.when, h]
  have hws : wsArgs n.hideIdle = wsArgs n := by
    cases h : n.ws.endpoint.enabled <;> simp [wsArgs, Node.hideIdle, Arguments.when, h]
  have hgraphql : graphqlArgs n.hideIdle = graphqlArgs n := by
    simp [graphqlArgs, Node.hideIdle]
  rw [args, args, hrpc, hws, hgraphql]
  rfl

/-- So is Parity, which has no GraphQL. -/
theorem Parity.args_hideIdle (c : Chain) : args c n.hideIdle = args c n := by
  have hrpc : rpcArgs n.hideIdle = rpcArgs n := by
    cases h : n.rpc.endpoint.enabled <;> simp [rpcArgs, Node.hideIdle, h]
  have hws : wsArgs n.hideIdle = wsArgs n := by
    cases h : n.ws.endpoint.enabled <;> simp [wsArgs, Node.hideIdle, h]
  rw [args, args, hrpc, hws]
  rfl

/-- No execution client is told where an interface would listen that it does not offer. -/
theorem Client.launch_hideIdle (client : Client) (n : Node) (c : Chain) :
    client.launch c n.hideIdle = client.launch c n := by
  cases client with
  | besu => simp only [launch, Besu.launch, Besu.args_hideIdle]; rfl
  | geth => simp only [launch, Geth.launch, Geth.args_hideIdle]; rfl
  | parity => simp only [launch, Parity.launch, Parity.args_hideIdle]; rfl

end Execution

namespace Beacon

/-- Nor is a beacon client, whichever interfaces it has. -/
theorem Client.nodeLaunch_hideIdle (client : Client) (n : Node) :
    client.nodeLaunch n.hideIdle = client.nodeLaunch n := by
  cases client with
  | teku =>
    have hrest : Teku.restArgs n.hideIdle = Teku.restArgs n := by
      cases h : n.rest.enabled <;> simp [Teku.restArgs, Node.hideIdle, Arguments.when, h]
    simp only [nodeLaunch, Teku.nodeLaunch, Teku.nodeArgs, hrest]
    rfl
  | prysm =>
    have hrpc : Prysm.rpcArgs n.hideIdle = Prysm.rpcArgs n := by
      cases h : n.rpc.enabled <;> simp [Prysm.rpcArgs, Node.hideIdle, Arguments.when, h]
    have hgrpc : Prysm.grpcArgs n.hideIdle = Prysm.grpcArgs n := by
      cases h : n.grpc.enabled <;> simp [Prysm.grpcArgs, Node.hideIdle, h]
    simp only [nodeLaunch, Prysm.nodeLaunch, Prysm.nodeArgs, hrpc, hgrpc]
    rfl
  | lighthouse =>
    have hrest : Lighthouse.restArgs n.hideIdle = Lighthouse.restArgs n := by
      cases h : n.rest.enabled <;> simp [Lighthouse.restArgs, Node.hideIdle, Arguments.when, h]
    simp only [nodeLaunch, Lighthouse.nodeLaunch, Lighthouse.nodeArgs, hrest]
    rfl
  | nimbus =>
    have hrest : Nimbus.restArgs n.hideIdle = Nimbus.restArgs n := by
      cases h : n.rest.enabled <;> simp [Nimbus.restArgs, Node.hideIdle, Arguments.when, h]
    simp only [nodeLaunch, Nimbus.nodeLaunch, Nimbus.nodeArgs, hrest]
    rfl

end Beacon

/-- The port for certificates is told together with the certificate. -/
theorem Oracle.Node.launch_hideIdle (n : Node) : n.hideIdle.launch = n.launch := by
  -- with a certificate nothing is idle, and without one the port is not asked for
  have htls : tlsVariables n.hideIdle = tlsVariables n := by
    cases h : n.certSecretName <;> simp [tlsVariables, hideIdle, h]
  simp only [launch, env, htls]
  rfl

/-- A node that does not offer its interface is not told where it would listen. -/
theorem Aptos.Node.apiVariables_of_disabled {n : Node} (h : n.api.enabled = false) :
    n.apiVariables = [] := by
  rw [apiVariables]
  split
  · next heq => rw [heq] at h; exact absurd h nofun
  · rfl

/-- The variables of an interface are there if it is offered. -/
theorem Aptos.Node.launch_hideIdle (n : Node) : n.hideIdle.launch = n.launch := by
  have hapi : apiVariables n.hideIdle = apiVariables n := by
    cases h : n.api.enabled with
    -- offered, it is the same interface
    | true => rw [apiVariables, hideIdle, Endpoint.hideIdle_of_enabled h, apiVariables]
    | false =>
      -- not offered, it is told in neither case
      have hhidden : n.hideIdle.api.enabled = false := (n.api.enabled_hideIdle).trans h
      rw [apiVariables_of_disabled h, apiVariables_of_disabled hhidden]
  simp only [launch, env, hapi]
  rfl

/-- No client is told an idle setting. -/
theorem Spec.workloads_hideIdle (name : String) (s : Spec) :
    s.hideIdle.workloads name = s.workloads name := by
  cases s with
  | network s =>
    have hworkload (n : Execution.Node) :
        n.hideIdle.workload name s.chain = n.workload name s.chain :=
      congrArg (fun launch => Workload.ofLaunch _ _ _ _ launch _)
        (n.client.launch_hideIdle n s.chain)
    simp only [workloads, hideIdle, Execution.Network.workloads, Execution.Network.mapNodes,
      List.map_map]
    exact List.map_congr_left fun n _ => hworkload n
  | beaconNode s =>
    exact congrArg (fun launch => [Workload.ofLaunch _ _ _ _ launch _])
      (s.client.nodeLaunch_hideIdle s)
  | chainlinkNode s =>
    exact congrArg (fun launch => [Workload.ofLaunch _ _ _ _ launch _]) s.launch_hideIdle
  | aptosNode s =>
    exact congrArg (fun launch => [Workload.ofLaunch _ _ _ _ launch _]) s.launch_hideIdle
  | _ => rfl

/-! ## Admission -/

namespace Manifest

variable {m m' : Manifest}

/-- The name of a manifest is in use. -/
@[simp] theorem name_hideIdle (m : Manifest) : m.hideIdle.name = m.name := rfl

/-- So is its kind. -/
@[simp] theorem kind_hideIdle (m : Manifest) : m.hideIdle.kind = m.kind := by
  obtain ⟨name, spec⟩ := m
  cases spec <;> rfl

/-- Filling makes nothing of an idle setting of a manifest. -/
theorem hideIdle_fill (images : Image.Overrides) (m : Manifest) :
    (m.hideIdle.fill images).hideIdle = (m.fill images).hideIdle :=
  congrArg (mk m.name) (m.spec.hideIdle_fill images)

/-- Manifests that differ in idle settings only are filled so that they still do. -/
theorem hideIdle_fill_congr (h : m.hideIdle = m'.hideIdle) (images : Image.Overrides) :
    (m.fill images).hideIdle = (m'.fill images).hideIdle := by
  rw [← hideIdle_fill, h, hideIdle_fill]

/-- They have the same problems in the place of any older manifest, or by themselves. -/
theorem problemsAfter_eq_of_hideIdle (h : m.hideIdle = m'.hideIdle) (old : Option Manifest) :
    m.problemsAfter old = m'.problemsAfter old := by
  have hspec : m.spec.hideIdle = m'.spec.hideIdle := congrArg Manifest.spec h
  cases old with
  | none =>
    show m.spec.problems = m'.spec.problems
    rw [← Spec.problems_hideIdle, hspec, Spec.problems_hideIdle]
  | some old =>
    show old.spec.changeProblems m.spec = old.spec.changeProblems m'.spec
    rw [← Spec.changeProblems_hideIdle, hspec, Spec.changeProblems_hideIdle]

/-- They have the same workloads. -/
theorem workloads_eq_of_hideIdle (h : m.hideIdle = m'.hideIdle) : m.workloads = m'.workloads := by
  obtain ⟨hname, hspec⟩ := Manifest.mk.inj h
  rw [workloads, workloads, ← Spec.workloads_hideIdle, hname, hspec, Spec.workloads_hideIdle]

/-- Manifests that differ in idle settings only are admitted alike in the place of any older one:
    both are rejected for the same reasons, or both have the same workloads, and are kept so that
    they still differ in idle settings only. -/
theorem admission_of_hideIdle (h : m.hideIdle = m'.hideIdle) (images : Image.Overrides)
    (old : Option Manifest) :
    (m.admission images old).map Admitted.hideIdle =
      (m'.admission images old).map Admitted.hideIdle := by
  have hfill := hideIdle_fill_congr h images
  have hname : m.hideIdle.name = m'.hideIdle.name := congrArg Manifest.name h
  have hkind : m.hideIdle.kind = m'.hideIdle.kind := congrArg Manifest.kind h
  rw [name_hideIdle, name_hideIdle] at hname
  rw [kind_hideIdle, kind_hideIdle] at hkind
  -- both admissions find the same problems, and so take the same branch
  rw [admission, admission, problemsAfter_eq_of_hideIdle hfill]
  split
  · have hworkloads := workloads_eq_of_hideIdle hfill
    simp only [Except.map, Admitted.hideIdle, hfill, hworkloads]
  · simp only [Except.map, kind_fill, name_fill, hname, hkind]

end Manifest

/-- A spec whose execution nodes have the given interface for calls. -/
def Spec.setRpc (e : Execution.CallEndpoint) : Spec → Spec
  | network s => network (s.mapNodes fun n => { n with rpc := e })
  | s => s

/-- A network whose node says where it would listen and for which calls, but does not offer the
    interface. -/
def Manifest.idleSample : Manifest where
  name := "net"
  spec := (History.sample ["a"] "100Gi").spec.setRpc
    ⟨⟨false, some "10.0.0.1", some 9545⟩, [.web3]⟩

/-- A network is admitted alike with such a node and with one that says nothing of the kind. -/
theorem Manifest.admission_of_hideIdle_sample :
    idleSample ≠ History.sample ["a"] "100Gi" ∧
      (idleSample.admission .none none).map Admitted.hideIdle =
        ((History.sample ["a"] "100Gi").admission .none none).map Admitted.hideIdle :=
  ⟨by decide +kernel, admission_of_hideIdle (by decide +kernel) .none none⟩

end Nodewright
