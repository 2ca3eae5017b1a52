import Mathlib.Data.List.Basic
import Nodewright.Proofs.Secrets.Renaming

/-!
# Where the names of secrets turn up

The only places of a workload where the name of a secret can turn up are the secrets in its
environment: two manifests that differ in such names have workloads that differ in nothing else. And
only the names of the manifest itself turn up there. Both follow from renaming, with a function that
forgets all names, and with one that keeps the names of the manifest.

## Key results

- `Manifest.secretNames_subset_of_mem_workloads`: workloads refer to the secrets of their manifest
- `Manifest.map_hideSecrets_workloads`: what is left of workloads without the names of secrets
- `Manifest.workloads_of_hideSecrets`: both, for manifests as they are given and as they are filled
-/

namespace Nodewright

/-! ## The secrets of a manifest -/

/-- The names of the secrets of a node. -/
def Execution.Node.secretNames (n : Execution.Node) : List String :=
  n.nodekeySecretName.toList ++
    n.importedAccount.toList.flatMap fun account =>
      [account.privateKeySecretName, account.passwordSecretName]

/-- The names of the secrets of a spec, but for those of the keys of a validator. -/
def Spec.secretNames : Spec → List String
  | network s => s.nodes.flatMap Execution.Node.secretNames
  | beaconNode s => s.jwtSecretName.toList ++ s.certSecretName.toList
  | validator s => s.walletPasswordSecret.toList ++ s.certSecretName.toList
  | peer s => s.swarmKeySecretName.toList
  | clusterPeer s => s.clusterSecretName :: s.privatekeySecretName.toList
  | chainlinkNode s =>
    s.keystorePasswordSecretName :: s.apiCredentials.passwordSecretName :: s.certSecretName.toList
  | aptosNode s => s.nodePrivateKeySecretName.toList

/-- The names of the secrets of a manifest. -/
def Manifest.secretNames (m : Manifest) : List String := m.spec.secretNames

/-- The names of the secrets that the environment of a workload refers to. -/
def Workload.secretNames (w : Workload) : List String :=
  w.launch.env.entries.filterMap fun entry =>
    match entry.2 with
    | .literal _ => none
    | .secret name _ => some name

section Kept

variable {f : String → String}

/-- A name that may be missing is the same under a function that keeps it. -/
theorem map_eq_self_of_toList {secret : Option String}
    (h : ∀ name ∈ secret.toList, f name = name) : secret.map f = secret := by
  cases secret with
  | none => rfl
  | some name => exact congrArg some (h name List.mem_cons_self)

/-- A node is the same under a function that keeps the names of its secrets. -/
theorem Execution.Node.renameSecrets_eq_self {n : Node}
    (h : ∀ name ∈ n.secretNames, f name = name) : n.renameSecrets f = n := by
  -- a node has the secret of its key, and maybe those of an account
  obtain ⟨hkey, haccount⟩ := List.forall_mem_append.1 h
  have hsame : (n.importedAccount.map fun account =>
      ImportedAccount.mk (f account.privateKeySecretName) (f account.passwordSecretName)) =
      n.importedAccount := by
    cases himported : n.importedAccount with
    | none => rfl
    | some account =>
      rw [himported] at haccount
      simp only [Option.toList_some, List.flatMap_singleton, List.forall_mem_cons] at haccount
      rw [Option.map_some, haccount.1, haccount.2.1]
  rw [renameSecrets, map_eq_self_of_toList hkey, hsame]

/-- A spec is the same under a function that keeps the names of its secrets. -/
theorem Spec.renameSecrets_eq_self {s : Spec} (h : ∀ name ∈ s.secretNames, f name = name) :
    s.renameSecrets f = s := by
  cases s with
  | network s =>
    have hnodes : s.nodes.map (Execution.Node.renameSecrets f) = s.nodes := by
      refine (List.map_congr_left fun n hn => ?_).trans (List.map_id _)
      exact Execution.Node.renameSecrets_eq_self fun name hname =>
        h name (List.mem_flatMap.2 ⟨n, hn, hname⟩)
    rw [renameSecrets, Execution.Network.renameSecrets, hnodes]
  | beaconNode s =>
    obtain ⟨hjwt, hcert⟩ := List.forall_mem_append.1 h
    rw [renameSecrets, Beacon.Node.renameSecrets, map_eq_self_of_toList hjwt,
      map_eq_self_of_toList hcert]
  | validator s =>
    obtain ⟨hwallet, hcert⟩ := List.forall_mem_append.1 h
    rw [renameSecrets, Beacon.Validator.renameSecrets, map_eq_self_of_toList hwallet,
      map_eq_self_of_toList hcert]
  | peer s => rw [renameSecrets, Storage.Peer.renameSecrets, map_eq_self_of_toList h]
  | clusterPeer s =>
    obtain ⟨hcluster, hkey⟩ := List.forall_mem_cons.1 h
    rw [renameSecrets, Storage.ClusterPeer.renameSecrets, hcluster, map_eq_self_of_toList hkey]
  | chainlinkNode s =>
    obtain ⟨hkeystore, hcredentials, hcert⟩ :=
      (List.forall_mem_cons.1 h).imp_right List.forall_mem_cons.1
    rw [renameSecrets, Oracle.Node.renameSecrets, hkeystore, hcredentials,
      map_eq_self_of_toList hcert]
  | aptosNode s => rw [renameSecrets, Aptos.Node.renameSecrets, map_eq_self_of_toList h]

/-- A workload that is the same under a function refers only to secrets whose names it keeps. -/
theorem Workload.eq_of_mem_secretNames {w : Workload} (h : w.renameSecrets f = w) {name : String}
    (hname : name ∈ w.secretNames) : f name = name := by
  obtain ⟨⟨key, value⟩, hentry, hvalue⟩ := List.mem_filterMap.1 hname
  -- a list that is the same under a map has only items that are the same
  have hentries : w.launch.env.entries.map (Prod.map id (EnvValue.renameSecret f)) =
      w.launch.env.entries.map id :=
    (congrArg (fun w : Workload => w.launch.env.entries) h).trans (List.map_id _).symm
  have hsame : value.renameSecret f = value :=
    congrArg Prod.snd (List.map_inj_left.1 hentries (key, value) hentry)
  cases value with
  | literal s => exact nomatch hvalue
  | secret secretName key =>
    obtain rfl := Option.some.inj hvalue
    exact (EnvValue.secret.inj hsame).1

end Kept

/-- A function that keeps the given names, and no other one. -/
def keepOnly (names : List String) (name : String) : String :=
  if name ∈ names then name else name ++ "-other"

/-- A name that is not given gets another one. -/
theorem keepOnly_eq_self_iff {names : List String} {name : String} :
    keepOnly names name = name ↔ name ∈ names := by
  by_cases h : name ∈ names <;> simp [keepOnly, h]

namespace Manifest

/-- Workloads refer to no other secrets than those of their manifest: under other names for all
    other secrets the manifest is the same, and so are its workloads. -/
theorem secretNames_subset_of_mem_workloads {m : Manifest} {w : Workload} (hw : w ∈ m.workloads) :
    w.secretNames ⊆ m.secretNames := by
  -- so a workload with a foreign secret would change its name, and it does not
  have hself : m.renameSecrets (keepOnly m.secretNames) = m :=
    congrArg (mk m.name) (Spec.renameSecrets_eq_self fun _ => keepOnly_eq_self_iff.2)
  have hworkloads : m.workloads.map (Workload.renameSecrets (keepOnly m.secretNames)) =
      m.workloads.map id := by
    rw [← workloads_renameSecrets, hself, List.map_id]
  have hkept : w.renameSecrets (keepOnly m.secretNames) = w := List.map_inj_left.1 hworkloads w hw
  intro name hname
  exact keepOnly_eq_self_iff.1 (Workload.eq_of_mem_secretNames hkept hname)

/-- Filling adds no secrets. -/
theorem secretNames_fill (images : Image.Overrides) (m : Manifest) :
    (m.fill images).secretNames = m.secretNames := by
  obtain ⟨name, spec⟩ := m
  cases spec with
  | network s => exact List.flatMap_map _ _ _
  | _ => rfl

end Manifest

/-! ## Manifests that differ in names -/

/-- A workload without the names of secrets. -/
def Workload.hideSecrets (w : Workload) : Workload := w.renameSecrets fun _ => ""

namespace Manifest

/-- A manifest without the names of secrets. Manifests are left with the same if they differ in
    these names only. -/
def hideSecrets (m : Manifest) : Manifest := m.renameSecrets fun _ => ""

variable {m m' : Manifest}

/-- Filling does not look at the names of secrets. -/
theorem hideSecrets_fill (images : Image.Overrides) (h : m.hideSecrets = m'.hideSecrets) :
    (m.fill images).hideSecrets = (m'.fill images).hideSecrets := by
  simp only [hideSecrets] at h ⊢
  rw [← fill_renameSecrets, h, fill_renameSecrets]

/-- Nothing of the names of secrets is left in workloads that hide them. -/
theorem map_hideSecrets_workloads (h : m.hideSecrets = m'.hideSecrets) :
    m.workloads.map Workload.hideSecrets = m'.workloads.map Workload.hideSecrets :=
  calc m.workloads.map Workload.hideSecrets
    _ = m.hideSecrets.workloads := (workloads_renameSecrets _ m).symm
    _ = m'.hideSecrets.workloads := by rw [h]
    _ = m'.workloads.map Workload.hideSecrets := workloads_renameSecrets _ m'

/-- Manifests that differ in the names of secrets only have workloads that differ in the names of
    secrets only, as they are given and as they are filled; and the secrets that an environment
    refers to are secrets of its manifest. -/
theorem workloads_of_hideSecrets (h : m.hideSecrets = m'.hideSecrets) :
    (m.workloads.map Workload.hideSecrets = m'.workloads.map Workload.hideSecrets ∧
      ∀ w ∈ m.workloads, w.secretNames ⊆ m.secretNames) ∧
    ∀ images, (m.fill images).workloads.map Workload.hideSecrets =
        (m'.fill images).workloads.map Workload.hideSecrets ∧
      ∀ w ∈ (m.fill images).workloads, w.secretNames ⊆ m.secretNames := by
  refine ⟨⟨map_hideSecrets_workloads h, fun w => secretNames_subset_of_mem_workloads⟩,
    fun images => ⟨map_hideSecrets_workloads (hideSecrets_fill images h), fun w hw => ?_⟩⟩
  rw [← secretNames_fill images]
  exact secretNames_subset_of_mem_workloads hw

/-- A cluster peer with an identity, whose secrets have the given names. -/
def clusterSample (clusterSecret key : String) : Manifest where
  name := "peer"
  spec := .clusterPeer {
    client := .ipfsClusterService, image := none, consensus := .crdt
    peerEndpoint := "/dns4/peer/tcp/5001", clusterSecretName := clusterSecret
    id := some "12D3KooWBcEtY8GH4mNkri9kM7haeWhEXtQV7mi81ErWrqLYGuiq"
    privatekeySecretName := some key, trustedPeers := [], bootstrapPeers := []
    logging := none, resources := .none }

/-- Two cluster peers with other secrets. -/
theorem workloads_of_hideSecrets_sample :
    (clusterSample "cluster" "key").hideSecrets = (clusterSample "a" "b").hideSecrets ∧
      ((clusterSample "cluster" "key").fill .none).workloads.map Workload.hideSecrets =
        ((clusterSample "a" "b").fill .none).workloads.map Workload.hideSecrets ∧
      ((clusterSample "cluster" "key").fill .none).workloads.flatMap Workload.secretNames =
        ["key", "cluster"] := by
  have h : (clusterSample "cluster" "key").hideSecrets = (clusterSample "a" "b").hideSecrets := rfl
  exact ⟨h, ((workloads_of_hideSecrets h).2 .none).1, by decide +kernel⟩

end Manifest

end Nodewright
