import Mathlib.Data.List.Basic
import Nodewright.Admission

/-!
# Other names for secrets

A manifest holds no secrets, only names of secrets. Its workloads are made without a look at these
names, so it does not matter whether secrets are renamed before that or afterwards. The keys of
validators are left out here: Teku finds them in files that are named after their secrets.

## Key results

- `Manifest.renameSecrets`, `Workload.renameSecrets`: other names for the same secrets
- `Execution.Client.launch_renameSecrets` and its like: no client looks at the names of secrets
- `Manifest.workloads_renameSecrets`: renaming and the making of workloads commute
- `Manifest.fill_renameSecrets`: renaming and filling commute
-/

namespace Nodewright

/-! ## Maps with other values -/

/-- The value of an entry put through a function. -/
theorem map_insertEntry {α β : Type} (g : α → β) (key : String) (value : α)
    (entries : List (String × α)) :
    (insertEntry key value entries).map (Prod.map id g) =
      insertEntry key (g value) (entries.map (Prod.map id g)) := by
  -- induction on the entries in front of which the new one may belong
  induction entries with
  | nil => rfl
  | cons entry rest ih =>
    obtain ⟨k, v⟩ := entry
    simp only [insertEntry, List.map_cons, Prod.map_apply, id_eq]
    -- keys are left alone, so the new entry lands in the same place
    by_cases hsame : key = k
    · simp [hsame]
    · by_cases hless : key < k
      · simp [hsame, hless]
      · simp [hsame, hless, ih]

namespace Keyed

variable {α β : Type}

/-- The map with each value put through a function. -/
def map (g : α → β) (m : Keyed α) : Keyed β where
  entries := m.entries.map (Prod.map id g)
  increasing := List.pairwise_map.2 m.increasing

/-- A value may be changed before it is put into a map or afterwards. -/
theorem map_insert (g : α → β) (m : Keyed α) (key : String) (value : α) :
    (m.insert key value).map g = (m.map g).insert key (g value) :=
  ext (map_insertEntry g key value m.entries)

/-- So may all values of a map that is made from entries. -/
theorem map_ofEntries (g : α → β) (entries : List (String × α)) :
    (ofEntries entries).map g = ofEntries (entries.map (Prod.map id g)) := by
  -- the entries are inserted into a map that grows, so the induction is over any map
  have hall (m : Keyed α) :
      (m.insertAll entries).map g = (m.map g).insertAll (entries.map (Prod.map id g)) := by
    induction entries generalizing m with
    | nil => rfl
    | cons entry rest ih => exact (ih _).trans (by rw [map_insert]; rfl)
  exact hall empty

end Keyed

/-! ## Other names in workloads -/

/-- Another name for the secret of a variable. -/
def EnvValue.renameSecret (f : String → String) : EnvValue → EnvValue
  | literal s => literal s
  | secret name key => secret (f name) key

/-- A value that is written out names no secret. -/
@[simp] theorem EnvValue.renameSecret_literal (f : String → String) (s : String) :
    (literal s).renameSecret f = literal s := rfl

/-- The key within the secret stays the same. -/
@[simp] theorem EnvValue.renameSecret_secret (f : String → String) (name key : String) :
    (secret name key).renameSecret f = secret (f name) key := rfl

/-- Other names for the secrets in an environment. -/
def Launch.renameSecrets (f : String → String) (l : Launch) : Launch :=
  { l with env := l.env.map (EnvValue.renameSecret f) }

/-- Other names for the secrets of a workload. -/
def Workload.renameSecrets (f : String → String) (w : Workload) : Workload :=
  { w with launch := w.launch.renameSecrets f }

namespace Environment

/-- Variables whose secrets have other names. -/
def rename (f : String → String) (settings : List (String × EnvValue)) :
    List (String × EnvValue) :=
  settings.map (Prod.map id (EnvValue.renameSecret f))

variable (f : String → String)

/-- Without variables there is nothing to rename. -/
@[simp] theorem rename_nil : rename f [] = [] := rfl

/-- A variable with a value that is written out is passed over. -/
@[simp] theorem rename_literal (name s : String) (settings : List (String × EnvValue)) :
    rename f ((name, .literal s) :: settings) = (name, .literal s) :: rename f settings := rfl

/-- Two groups of variables are renamed each by itself. -/
@[simp] theorem rename_append (xs ys : List (String × EnvValue)) :
    rename f (xs ++ ys) = rename f xs ++ rename f ys := List.map_append

/-- An optional variable refers to the renamed secret if it is given. -/
@[simp] theorem rename_given (name : String) (value : Option EnvValue) :
    rename f (given name value) = given name (value.map (EnvValue.renameSecret f)) := by
  cases value <;> rfl

/-- The environment of renamed variables is the renamed environment. -/
theorem map_ofList (settings : List (String × EnvValue)) :
    Keyed.map (EnvValue.renameSecret f) (ofList settings) = ofList (rename f settings) :=
  Keyed.map_ofEntries _ settings

end Environment

/-! ## Other names in specs -/

section Specs

variable (f : String → String)

/-- Other names for the secrets of a node. -/
def Execution.Node.renameSecrets (n : Execution.Node) : Execution.Node :=
  { n with
    nodekeySecretName := n.nodekeySecretName.map f
    importedAccount := n.importedAccount.map fun account =>
      ⟨f account.privateKeySecretName, f account.passwordSecretName⟩ }

/-- Other names for the secrets of a network. -/
def Execution.Network.renameSecrets (n : Execution.Network) : Execution.Network :=
  { n with nodes := n.nodes.map (Execution.Node.renameSecrets f) }

/-- Other names for the secrets of a beacon node. -/
def Beacon.Node.renameSecrets (n : Beacon.Node) : Beacon.Node :=
  { n with
    jwtSecretName := n.jwtSecretName.map f
    certSecretName := n.certSecretName.map f }

/-- Other names for the secrets of a validator, but for those of its keys. -/
def Beacon.Validator.renameSecrets (v : Beacon.Validator) : Beacon.Validator :=
  { v with
    walletPasswordSecret := v.walletPasswordSecret.map f
    certSecretName := v.certSecretName.map f }

/-- Another name for the secret of a peer. -/
def Storage.Peer.renameSecrets (p : Storage.Peer) : Storage.Peer :=
  { p with swarmKeySecretName := p.swarmKeySecretName.map f }

/-- Other names for the secrets of a cluster peer. -/
def Storage.ClusterPeer.renameSecrets (p : Storage.ClusterPeer) : Storage.ClusterPeer :=
  { p with
    clusterSecretName := f p.clusterSecretName
    privatekeySecretName := p.privatekeySecretName.map f }

/-- Other names for the secrets of an oracle node. -/
def Oracle.Node.renameSecrets (n : Oracle.Node) : Oracle.Node :=
  { n with
    keystorePasswordSecretName := f n.keystorePasswordSecretName
    apiCredentials := { n.apiCredentials with
      passwordSecretName := f n.apiCredentials.passwordSecretName }
    certSecretName := n.certSecretName.map f }

/-- Another name for the secret of an Aptos node. -/
def Aptos.Node.renameSecrets (n : Aptos.Node) : Aptos.Node :=
  { n with nodePrivateKeySecretName := n.nodePrivateKeySecretName.map f }

/-- Other names for the secrets of a spec. -/
def Spec.renameSecrets : Spec → Spec
  | network s => network (s.renameSecrets f)
  | beaconNode s => beaconNode (s.renameSecrets f)
  | validator s => validator (s.renameSecrets f)
  | peer s => peer (s.renameSecrets f)
  | clusterPeer s => clusterPeer (s.renameSecrets f)
  | chainlinkNode s => chainlinkNode (s.renameSecrets f)
  | aptosNode s => aptosNode (s.renameSecrets f)

/-- Other names for the secrets of a manifest. -/
def Manifest.renameSecrets (m : Manifest) : Manifest :=
  { m with spec := m.spec.renameSecrets f }

end Specs

/-! ## Clients do not look at names -/

section Launches

variable (f : String → String)

/-- Besu asks whether there is a key, and finds it in a mounted file. -/
theorem Execution.Besu.args_renameSecrets (c : Chain) (n : Node) :
    args c (n.renameSecrets f) = args c n := by
  -- only the arguments for the network ask for the node key
  have hnetwork : networkArgs (n.renameSecrets f) = networkArgs n := by
    simp [networkArgs, Node.renameSecrets]
  rw [args, args, hnetwork]
  rfl

/-- Geth asks whether there is a key, and whether there is an account to import. -/
theorem Execution.Geth.args_renameSecrets (c : Chain) (n : Node) :
    args c (n.renameSecrets f) = args c n := by
  have hnetwork : networkArgs (n.renameSecrets f) = networkArgs n := by
    simp [networkArgs, Node.renameSecrets]
  -- those for mining ask for an imported account
  have hmining : miningArgs (n.renameSecrets f) = miningArgs n := by
    simp [miningArgs, coinbaseArgs, Node.renameSecrets]
  rw [args, args, hnetwork, hmining]
  rfl

/-- Parity asks the same, and takes the address of an account from the coinbase. -/
theorem Execution.Parity.args_renameSecrets (c : Chain) (n : Node) :
    args c (n.renameSecrets f) = args c n := by
  have hnetwork : networkArgs (n.renameSecrets f) = networkArgs n := by
    simp only [networkArgs, Node.renameSecrets, Option.isSome_map]
    rfl
  -- whether there is an account is all that its match looks at
  have haccount : accountArgs (n.renameSecrets f) = accountArgs n := by
    rw [accountArgs, accountArgs, Node.renameSecrets]
    cases n.coinbase <;> cases n.importedAccount <;> rfl
  rw [args, args, hnetwork, haccount]
  rfl

/-- The key of Parity is a variable, which refers to the renamed secret. -/
theorem Execution.Parity.env_renameSecrets (n : Node) :
    env (n.renameSecrets f) = (env n).map (EnvValue.renameSecret f) := by
  rw [env, env, Environment.map_ofList, Environment.rename_given, Option.map_map,
    Node.renameSecrets, Option.map_map]
  rfl

/-- The launch of an execution client changes in its references to secrets only. -/
theorem Execution.Client.launch_renameSecrets (client : Client) (c : Chain) (n : Node) :
    client.launch c (n.renameSecrets f) = (client.launch c n).renameSecrets f := by
  cases client with
  | besu => simp only [launch, Besu.launch, Besu.args_renameSecrets]; rfl
  | geth => simp only [launch, Geth.launch, Geth.args_renameSecrets]; rfl
  | parity =>
    simp only [launch, Parity.launch, Parity.args_renameSecrets, Parity.env_renameSecrets]
    rfl

/-- A beacon client asks whether it has a secret or a certificate, and finds them in mounted files.
    -/
theorem Beacon.Client.nodeLaunch_renameSecrets (client : Client) (n : Node) :
    client.nodeLaunch (n.renameSecrets f) = (client.nodeLaunch n).renameSecrets f := by
  cases client with
  | teku =>
    have hargs : Teku.nodeArgs (n.renameSecrets f) = Teku.nodeArgs n := by
      simp [Teku.nodeArgs, Teku.restArgs, Node.renameSecrets]
    simp only [nodeLaunch, Teku.nodeLaunch, hargs]
    rfl
  | prysm =>
    have hargs : Prysm.nodeArgs (n.renameSecrets f) = Prysm.nodeArgs n := by
      simp [Prysm.nodeArgs, Prysm.checkpointArgs, Prysm.p2pArgs, Prysm.rpcArgs, Prysm.grpcArgs,
        Node.renameSecrets]
    simp only [nodeLaunch, Prysm.nodeLaunch, hargs]
    rfl
  | lighthouse =>
    have hargs : Lighthouse.nodeArgs (n.renameSecrets f) = Lighthouse.nodeArgs n := by
      simp [Lighthouse.nodeArgs, Lighthouse.restArgs, Node.renameSecrets]
    simp only [nodeLaunch, Lighthouse.nodeLaunch, hargs]
    rfl
  | nimbus =>
    have hargs : Nimbus.nodeArgs (n.renameSecrets f) = Nimbus.nodeArgs n := by
      simp [Nimbus.nodeArgs, Nimbus.restArgs, Nimbus.p2pArgs, Node.renameSecrets]
    simp only [nodeLaunch, Nimbus.nodeLaunch, hargs]
    rfl

/-- Of the validator clients only Prysm asks for a wallet or a certificate. -/
theorem Beacon.Client.validatorLaunch_renameSecrets (client : Client) (v : Validator) :
    client.validatorLaunch (v.renameSecrets f) = (client.validatorLaunch v).renameSecrets f := by
  cases client with
  | prysm =>
    have hargs : Prysm.validatorArgs (v.renameSecrets f) = Prysm.validatorArgs v := by
      simp [Prysm.validatorArgs, Validator.beaconUrls, Validator.renameSecrets]
    simp only [validatorLaunch, Prysm.validatorLaunch, hargs]
    rfl
  | _ => rfl

/-- A peer refers to the key of its swarm in a variable. -/
theorem Storage.Peer.launch_renameSecrets (p : Peer) :
    (p.renameSecrets f).launch = p.launch.renameSecrets f := by
  -- profiles are written out, so renaming passes over them
  have hprofiles (profiles : List Profile) :
      (profileValue profiles).map (EnvValue.renameSecret f) = profileValue profiles := by
    rw [profileValue]
    split <;> rfl
  have henv : env (p.renameSecrets f) = (env p).map (EnvValue.renameSecret f) := by
    rw [env, env, Environment.map_ofList]
    simp [renameSecrets, hprofiles, Function.comp_def]
  simp only [launch, henv]
  rfl

/-- A cluster peer refers to its two secrets in variables, the second one only beside an identity.
    -/
theorem Storage.ClusterPeer.launch_renameSecrets (name : String) (p : ClusterPeer) :
    (p.renameSecrets f).launch name = (p.launch name).renameSecrets f := by
  -- the identity is only told together with its key
  have hidentity : identity (p.renameSecrets f) = Environment.rename f (identity p) := by
    rw [identity, identity, renameSecrets]
    cases p.id <;> cases p.privatekeySecretName <;> rfl
  have henv : env name (p.renameSecrets f) = (env name p).map (EnvValue.renameSecret f) := by
    rw [env, env, Environment.map_ofList, Environment.rename_append, hidentity]
    rfl
  simp only [launch, henv]
  rfl

/-- An oracle node reads its secrets from mounted files, and asks only whether it has a certificate.
    -/
theorem Oracle.Node.launch_renameSecrets (n : Node) :
    (n.renameSecrets f).launch = n.launch.renameSecrets f := by
  -- three groups of variables are written out, the other ones are optional references
  have hhttp : Environment.rename f (httpVariables n) = httpVariables n := by
    rw [httpVariables]
    split <;> rfl
  have htls : Environment.rename f (tlsVariables n) = tlsVariables n := by
    rw [tlsVariables]
    split <;> simp [Function.comp_def]
  have horigins : Option.map (EnvValue.renameSecret f)
      (if n.corsDomains.isEmpty then none else some (.literal (Text.joinWith "," n.corsDomains))) =
      if n.corsDomains.isEmpty then none
        else some (.literal (Text.joinWith "," n.corsDomains)) := by
    split <;> rfl
  have htls' : tlsVariables (n.renameSecrets f) = tlsVariables n := by
    simp only [tlsVariables, renameSecrets, Option.isSome_map]
  have henv : env (n.renameSecrets f) = (env n).map (EnvValue.renameSecret f) := by
    rw [env, env, Environment.map_ofList, htls']
    simp only [Environment.rename_append, Environment.rename_given, hhttp, htls, horigins,
      Option.map_map]
    rfl
  simp only [launch, henv]
  rfl

/-- An Aptos node refers to its key in a variable, beside its identity. -/
theorem Aptos.Node.launch_renameSecrets (n : Node) :
    (n.renameSecrets f).launch = n.launch.renameSecrets f := by
  -- where the interface listens is written out, and the identity refers to the key
  have hapi : Environment.rename f (apiVariables n) = apiVariables n := by
    rw [apiVariables]
    split <;> rfl
  have hidentity : identity (n.renameSecrets f) = Environment.rename f (identity n) := by
    rw [identity, identity, renameSecrets]
    cases n.peerId <;> cases n.nodePrivateKeySecretName <;> rfl
  have henv : env (n.renameSecrets f) = (env n).map (EnvValue.renameSecret f) := by
    rw [env, env, Environment.map_ofList, hidentity]
    simp only [Environment.rename_append, Environment.rename_given, hapi, Option.map_map]
    rfl
  simp only [launch, henv]
  rfl

end Launches

/-! ## Renaming, filling and workloads -/

section Commute

variable (f : String → String)

/-- A workload depends on the names of secrets through the way it is started. -/
theorem Workload.ofLaunch_of_eq {launch launch' : Launch} (h : launch' = launch.renameSecrets f)
    (name : String) (kind : Kind) (client role : String) (resources : Resources) :
    ofLaunch name kind client role launch' resources =
      (ofLaunch name kind client role launch resources).renameSecrets f := by
  rw [h]
  rfl

/-- Secrets may be renamed before the workloads are made or afterwards. -/
theorem Spec.workloads_renameSecrets (name : String) (s : Spec) :
    (s.renameSecrets f).workloads name = (s.workloads name).map (Workload.renameSecrets f) := by
  cases s with
  | network s =>
    -- a workload of a network for each node, one for every other spec
    have hworkload (n : Execution.Node) : (n.renameSecrets f).workload name s.chain =
        (n.workload name s.chain).renameSecrets f :=
      Workload.ofLaunch_of_eq f (n.client.launch_renameSecrets f s.chain n) _ _ _ _ _
    simp only [workloads, renameSecrets, Execution.Network.workloads,
      Execution.Network.renameSecrets, List.map_map]
    exact List.map_congr_left fun n _ => hworkload n
  | beaconNode s =>
    exact congrArg (fun w => [w])
      (Workload.ofLaunch_of_eq f (s.client.nodeLaunch_renameSecrets f s) _ _ _ _ _)
  | validator s =>
    exact congrArg (fun w => [w])
      (Workload.ofLaunch_of_eq f (s.client.validatorLaunch_renameSecrets f s) _ _ _ _ _)
  | peer s =>
    exact congrArg (fun w => [w]) (Workload.ofLaunch_of_eq f (s.launch_renameSecrets f) _ _ _ _ _)
  | clusterPeer s =>
    exact congrArg (fun w => [w])
      (Workload.ofLaunch_of_eq f (s.launch_renameSecrets f name) _ _ _ _ _)
  | chainlinkNode s =>
    exact congrArg (fun w => [w]) (Workload.ofLaunch_of_eq f (s.launch_renameSecrets f) _ _ _ _ _)
  | aptosNode s =>
    exact congrArg (fun w => [w]) (Workload.ofLaunch_of_eq f (s.launch_renameSecrets f) _ _ _ _ _)

/-- The workloads of a manifest with renamed secrets are its workloads with renamed secrets. -/
theorem Manifest.workloads_renameSecrets (m : Manifest) :
    (m.renameSecrets f).workloads = m.workloads.map (Workload.renameSecrets f) :=
  m.spec.workloads_renameSecrets f m.name

/-- Filling does not look at the names of secrets either. -/
theorem Manifest.fill_renameSecrets (images : Image.Overrides) (m : Manifest) :
    (m.renameSecrets f).fill images = (m.fill images).renameSecrets f := by
  obtain ⟨name, spec⟩ := m
  cases spec with
  | network s =>
    -- the nodes are filled one by one, each without a look at its secrets
    have hnodes : (s.nodes.map (Execution.Node.renameSecrets f)).map (Execution.Node.fill images) =
        (s.nodes.map (Execution.Node.fill images)).map (Execution.Node.renameSecrets f) := by
      rw [List.map_map, List.map_map]
      rfl
    simp only [fill, renameSecrets, Spec.fill, Spec.renameSecrets, Execution.Network.fill,
      Execution.Network.renameSecrets, hnodes]
  | _ => rfl

end Commute

end Nodewright
