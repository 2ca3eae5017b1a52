import Mathlib.Data.List.Forall2
import Nodewright.Proofs.Admission.History
import Nodewright.Proofs.CommandLine.Outcomes

/-!
# Which image a node gets

The image of a node is named in four places: in its spec, in a configuration file, in the
environment, and in the program itself. The first of these that names one decides. In the file and
in the environment an image stands under a key, which depends on the kind of the spec and on the
client of the node; `Image.catalogue` lists these keys, and the images of the program.

## Key results

- `Image.Overrides.get?_editAll`: of many edits the last one of a key counts
- `Image.Overrides.get?_ofEnvironment`: what overrides take from an environment
- `Image.keys_eq_catalogue`: the environment is asked for every key, and for no other one
- `Spec.forall₂_image_workloads`: which image the workloads of a filled spec have
- `Command.image_compile`: which image a node has that is compiled
-/

namespace Nodewright

/-! ## Edits of overrides -/

/-- A change of overrides. -/
inductive Image.Edit where
  /-- An image is put under a key. -/
  | set (key image : String)
  /-- The images of a second configuration are put over those that are there. -/
  | merge (images : Image.Overrides)

namespace Image.Edit

/-- The images that an edit writes, with their keys, in the order in which it does. -/
def writes : Edit → List (String × String)
  | set key image => [(key, image)]
  | merge images => images.images.entries

/-- The image that edits write last under a key. -/
def lastWrite (edits : List Edit) (key : String) : Option String :=
  lookupEntry key (edits.flatMap writes).reverse

/-- A key that no edit writes has no image written. -/
theorem lastWrite_eq_none {edits : List Edit} {key : String}
    (h : ∀ entry ∈ edits.flatMap writes, entry.1 ≠ key) : lastWrite edits key = none := by
  rw [lastWrite, lookupEntry_eq_none_iff]
  intro hkey
  obtain ⟨entry, hentry, heq⟩ := List.mem_map.1 hkey
  exact h entry (List.mem_reverse.1 hentry) heq

end Image.Edit

namespace Image.Overrides

/-- Overrides behind an edit. -/
def edit (o : Overrides) : Edit → Overrides
  | .set key image => o.set key image
  | .merge images => o.merge images

/-- Overrides behind edits that follow each other. -/
def editAll (o : Overrides) (edits : List Edit) : Overrides := edits.foldl edit o

/-- An edit inserts what it writes. -/
theorem images_edit (o : Overrides) (e : Edit) :
    (o.edit e).images = o.images.insertAll e.writes := by
  cases e <;> rfl

/-- So do many edits. -/
theorem images_editAll (o : Overrides) (edits : List Edit) :
    (o.editAll edits).images = o.images.insertAll (edits.flatMap Edit.writes) := by
  -- induction on the edits, from any overrides
  induction edits generalizing o with
  | nil => rfl
  | cons e edits ih =>
    -- the later edits start from what the first one leaves
    have hstep : o.editAll (e :: edits) = (o.edit e).editAll edits := rfl
    rw [hstep, ih, images_edit, Keyed.insertAll, Keyed.insertAll, ← List.foldl_append]
    rfl

/-- Behind edits a key has the image that was written last, and without one the image that it had
    before. -/
theorem get?_editAll (o : Overrides) (edits : List Edit) (key : String) :
    (o.editAll edits).get? key = (Edit.lastWrite edits key).or (o.get? key) := by
  rw [get?, images_editAll, Keyed.get?_insertAll]
  rfl

/-! ## Overrides of an environment -/

/-- What a variable of an environment names. One that is empty names nothing. -/
def named (value : Option String) : Option String := value.filter fun image => image ≠ ""

/-- A variable that is not set names nothing. -/
@[simp] theorem named_none : named .none = .none := rfl

/-- A variable that is set names its value, unless that is empty. -/
theorem named_some (image : String) :
    named (some image) = if image = "" then .none else some image := by
  by_cases hempty : image = ""
  · rw [if_pos hempty, named, Option.filter_some_neg (by simpa using hempty)]
  · rw [if_neg hempty, named, Option.filter_some_pos (by simpa using hempty)]

/-- Overrides with what an environment names under one more key. -/
def setNamed (value : String → Option String) (o : Overrides) (key : String) : Overrides :=
  (named (value key)).elim o (o.set key)

/-- An environment is gone through key by key. -/
theorem ofEnvironment_eq_foldl (keys : List String) (value : String → Option String) :
    ofEnvironment keys value = keys.foldl (setNamed value) none := by
  rw [ofEnvironment]
  congr 1
  funext o key
  rw [setNamed]
  cases value key with
  | none => rfl
  | some image =>
    rw [named_some]
    by_cases hempty : image = ""
    · simp [hempty]
    · simp [hempty]

/-- One round looks at one key, and only that one may change. -/
theorem get?_setNamed (value : String → Option String) (o : Overrides) (key other : String) :
    (o.setNamed value key).get? other =
      (if other = key then named (value key) else .none).or (o.get? other) := by
  rw [setNamed]
  cases named (value key) with
  | none => simp
  | some image =>
    by_cases hkey : other = key
    · subst hkey
      simp
    · simp [hkey, get?_set_of_ne o image hkey]

/-- Overrides have the images that the environment names under the given keys, and no others. -/
theorem get?_ofEnvironment (keys : List String) (value : String → Option String) (key : String) :
    (ofEnvironment keys value).get? key = if key ∈ keys then named (value key) else .none := by
  -- the rounds add to what has been found already
  suffices h : ∀ o : Overrides, (keys.foldl (setNamed value) o).get? key =
      (if key ∈ keys then named (value key) else .none).or (o.get? key) by
    rw [ofEnvironment_eq_foldl, h, get?_none, Option.or_none]
  induction keys with
  | nil =>
    intro o
    rfl
  | cons first keys ih =>
    intro o
    rw [List.foldl_cons, ih, get?_setNamed, ← Option.or_assoc]
    congr 1
    by_cases hkey : key = first
    · -- a key that comes again finds the same value
      subst hkey
      by_cases hmem : key ∈ keys
      · simp [hmem]
      · simp [hmem]
    · simp [hkey]

end Image.Overrides

/-! ## Keys and images of the clients -/

namespace Image

/-- The keys and the images of the clients, by the kind of a spec and the name of the client. -/
def catalogue : List ((Kind × String) × Source) := [
  ((.network, "besu"), ⟨"BESU_IMAGE", "hyperledger/besu:22.7.0"⟩),
  ((.network, "geth"), ⟨"GETH_IMAGE", "ethereum/client-go:v1.10.23"⟩),
  ((.network, "parity"), ⟨"PARITY_IMAGE", "openethereum/openethereum:v3.3.5"⟩),
  ((.beaconNode, "teku"), ⟨"TEKU_BEACON_NODE_IMAGE", "consensys/teku:22.9.1"⟩),
  ((.validator, "teku"), ⟨"TEKU_VALIDATOR_IMAGE", "consensys/teku:22.9.1"⟩),
  ((.beaconNode, "prysm"),
    ⟨"PRYSM_BEACON_NODE_IMAGE", "gcr.io/prysmaticlabs/prysm/beacon-chain:v3.1.1"⟩),
  ((.validator, "prysm"),
    ⟨"PRYSM_VALIDATOR_IMAGE", "gcr.io/prysmaticlabs/prysm/validator:v3.1.1"⟩),
  ((.beaconNode, "lighthouse"), ⟨"LIGHTHOUSE_BEACON_NODE_IMAGE", "sigp/lighthouse:v3.1.2"⟩),
  ((.validator, "lighthouse"), ⟨"LIGHTHOUSE_VALIDATOR_IMAGE", "sigp/lighthouse:v3.1.2"⟩),
  ((.beaconNode, "nimbus"),
    ⟨"NIMBUS_BEACON_NODE_IMAGE", "statusim/nimbus-eth2:multiarch-v22.9.1"⟩),
  ((.validator, "nimbus"),
    ⟨"NIMBUS_VALIDATOR_IMAGE", "statusim/nimbus-validator-client:multiarch-v22.9.1"⟩),
  ((.peer, "go-ipfs"), ⟨"GO_IPFS_IMAGE", "ipfs/go-ipfs:v0.15.0"⟩),
  ((.clusterPeer, "ipfs-cluster-service"), ⟨"IPFS_CLUSTER_IMAGE", "ipfs/ipfs-cluster:v1.0.2"⟩),
  ((.chainlinkNode, "chainlink"), ⟨"CHAINLINK_IMAGE", "smartcontract/chainlink:1.8.0"⟩),
  ((.aptosNode, "aptos-core"), ⟨"APTOS_CORE_IMAGE", "aptoslabs/validator:testnet_8e3ad2fc"⟩)]

/-- The key and the image of a client of a kind. -/
def source? (kind : Kind) (client : String) : Option Source :=
  (catalogue.find? fun row => row.1 = (kind, client)).map Prod.snd

/-- The environment is asked for the keys of the catalogue, for each of them once. -/
theorem keys_eq_catalogue :
    keys = catalogue.map (fun row => row.2.key) ∧ keys.Nodup := by
  decide

/-- The key of a client is one that the environment is asked for. -/
theorem key_mem_keys {kind : Kind} {client : String} {source : Source}
    (h : source? kind client = some source) : source.key ∈ keys := by
  obtain ⟨row, hrow, rfl⟩ := Option.map_eq_some_iff.1 h
  rw [keys_eq_catalogue.1]
  exact List.mem_map.2 ⟨row, List.mem_of_find?_eq_some hrow, rfl⟩

/-- The image that is named first, in a spec, in a file or in the environment, or else that of the
    client. -/
def prefer (explicit file environment : Option String) (builtIn : String) : String :=
  ((explicit.or file).or environment).getD builtIn

/-- A file that is merged into the environment leaves the environment the images that the file does
    not name. -/
theorem resolve_merge_ofEnvironment (explicit : Option String) (value : String → Option String)
    (file : Overrides) {source : Source} (hkey : source.key ∈ keys) :
    ((Overrides.ofEnvironment keys value).merge file).resolve explicit source =
      prefer explicit (file.get? source.key) (Overrides.named (value source.key))
        source.builtIn := by
  rw [Overrides.resolve, Overrides.get?_merge, Overrides.get?_ofEnvironment, if_pos hkey, prefer]
  cases explicit <;> cases file.get? source.key <;> rfl

end Image

/-- The catalogue has a row for every execution client. -/
theorem Execution.Client.source?_name (c : Execution.Client) :
    Image.source? .network c.name = some c.imageSource := by
  cases c <;> decide

/-- It has two rows for every beacon client, one for each kind of node. -/
theorem Beacon.Client.source?_name (c : Beacon.Client) :
    Image.source? .beaconNode c.name = some c.nodeImage ∧
      Image.source? .validator c.name = some c.validatorImage := by
  cases c <;> decide

/-- It has a row for the client of peers. -/
theorem Storage.PeerClient.source?_name (c : Storage.PeerClient) :
    Image.source? .peer c.name = some c.imageSource := by
  cases c
  decide

/-- It has a row for the client of cluster peers. -/
theorem Storage.ClusterClient.source?_name (c : Storage.ClusterClient) :
    Image.source? .clusterPeer c.name = some c.imageSource := by
  cases c
  decide

/-- It has a row for the client of oracle nodes. -/
theorem Oracle.Client.source?_name (c : Oracle.Client) :
    Image.source? .chainlinkNode c.name = some c.imageSource := by
  cases c
  decide

/-- It has a row for the client of Aptos nodes. -/
theorem Aptos.Client.source?_name (c : Aptos.Client) :
    Image.source? .aptosNode c.name = some c.imageSource := by
  cases c
  decide

/-- An execution client is started from the image of the node, or else from its own. -/
theorem Execution.Client.image_launch (client : Execution.Client) (c : Execution.Chain)
    (n : Execution.Node) :
    (client.launch c n).image = n.image.getD client.imageSource.builtIn := by
  cases client <;> rfl

/-- So is a beacon client. -/
theorem Beacon.Client.image_nodeLaunch (client : Beacon.Client) (n : Beacon.Node) :
    (client.nodeLaunch n).image = n.image.getD client.nodeImage.builtIn := by
  cases client <;> rfl

/-- So is a validator client, which has an image of its own. -/
theorem Beacon.Client.image_validatorLaunch (client : Beacon.Client) (v : Beacon.Validator) :
    (client.validatorLaunch v).image = v.image.getD client.validatorImage.builtIn := by
  cases client <;> rfl

/-! ## Images of the workloads -/

/-- The clients of the nodes of a spec, each with the image that the spec names for the node. -/
def Spec.clientImages : Spec → List (String × Option String)
  | network s => s.nodes.map fun n => (n.client.name, n.image)
  | beaconNode s => [(s.client.name, s.image)]
  | validator s => [(s.client.name, s.image)]
  | peer s => [(s.client.name, s.image)]
  | clusterPeer s => [(s.client.name, s.image)]
  | chainlinkNode s => [(s.client.name, s.image)]
  | aptosNode s => [(s.client.name, s.image)]

/-- A workload of a node of a client whose spec names an image or none: the image of the workload is
    the one that `choose` makes of the image of the spec and of the row of the catalogue. -/
structure Workload.HasImage (kind : Kind) (choose : Option String → Image.Source → String)
    (node : String × Option String) (w : Workload) : Prop where
  kind_eq : w.kind = kind
  client_eq : w.client = node.1
  image_eq : ∃ source, Image.source? kind node.1 = some source ∧
    w.launch.image = choose node.2 source

/-- It is enough to choose alike for the sources that have a key. -/
theorem Workload.HasImage.congr {kind : Kind}
    {choose choose' : Option String → Image.Source → String} {node : String × Option String}
    {w : Workload} (h : w.HasImage kind choose node)
    (hchoose : ∀ source, source.key ∈ Image.keys → choose node.2 source = choose' node.2 source) :
    w.HasImage kind choose' node := by
  obtain ⟨source, hsource, himage⟩ := h.image_eq
  have hkey := Image.key_mem_keys hsource
  exact ⟨h.kind_eq, h.client_eq, source, hsource, himage.trans (hchoose source hkey)⟩

/-- A launch falls back on the image of its client, but filling leaves nothing to fall back for. -/
theorem Workload.hasImage_ofLaunch {kind : Kind} {client : String} {source : Image.Source}
    (images : Image.Overrides) {explicit : Option String} {launch : Launch}
    (hsource : Image.source? kind client = some source)
    (hlaunch : launch.image = (some (images.resolve explicit source)).getD source.builtIn)
    (name role : String) (resources : Resources) :
    (ofLaunch name kind client role launch resources).HasImage kind images.resolve
      (client, explicit) :=
  ⟨rfl, rfl, source, hsource, hlaunch⟩

/-- The workloads of a filled spec are those of its nodes, one for each, and have the images that
    the overrides choose for them. -/
theorem Spec.forall₂_image_workloads (images : Image.Overrides) (name : String) (s : Spec) :
    List.Forall₂ (Workload.HasImage s.kind images.resolve) s.clientImages
      ((s.fill images).workloads name) := by
  cases s with
  | network s =>
    -- a node of a network is launched for the chain of the network, which does not matter for its
    -- image
    have hnode (n : Execution.Node) (c : Execution.Chain) :
        ((n.fill images).workload name c).HasImage .network images.resolve
          (n.client.name, n.image) :=
      Workload.hasImage_ofLaunch images n.client.source?_name
        (n.client.image_launch c (n.fill images)) _ _ _
    simp only [clientImages, fill, workloads, Execution.Network.fill, Execution.Network.workloads,
      List.map_map, List.forall₂_map_left_iff, List.forall₂_map_right_iff]
    exact List.forall₂_same.2 fun n _ => hnode n _
  | beaconNode s =>
    have hlaunch := s.client.image_nodeLaunch (s.fill images)
    exact .cons (Workload.hasImage_ofLaunch images s.client.source?_name.1 hlaunch _ _ _) .nil
  | validator s =>
    have hlaunch := s.client.image_validatorLaunch (s.fill images)
    exact .cons (Workload.hasImage_ofLaunch images s.client.source?_name.2 hlaunch _ _ _) .nil
  | peer s =>
    exact .cons (Workload.hasImage_ofLaunch images s.client.source?_name rfl _ _ _) .nil
  | clusterPeer s =>
    exact .cons (Workload.hasImage_ofLaunch images s.client.source?_name rfl _ _ _) .nil
  | chainlinkNode s =>
    exact .cons (Workload.hasImage_ofLaunch images s.client.source?_name rfl _ _ _) .nil
  | aptosNode s =>
    exact .cons (Workload.hasImage_ofLaunch images s.client.source?_name rfl _ _ _) .nil

/-! ## Images of what is compiled -/

/-- A node that is compiled has the image of its spec if there is one, else the one that the
    configuration file has under the key of its kind and client, else the one that the environment
    names under the key, and else that of its client. Behind any edits of overrides the image under
    a key is the one written last, and what is written under other keys changes nothing. -/
theorem Command.image_compile {s : Surroundings} {file : String} {config : Option String}
    (h : ((compile file config).run s).exitCode = 0) :
    (∃ (m : Manifest) (images : Image.Overrides) (workloads : List Workload),
      loadManifest s file = .ok m ∧ loadConfig s config = .ok images ∧
      (compile file config).run s =
        .success (line (Json.array (workloads.map Workload.toJson)).indented) ∧
      List.Forall₂
        (Workload.HasImage m.kind fun explicit source =>
          Image.prefer explicit (images.get? source.key)
            (Image.Overrides.named (s.environment source.key)) source.builtIn)
        m.spec.clientImages workloads) ∧
    (∀ (o : Image.Overrides) (edits : List Image.Edit) (key builtIn : String),
      (o.editAll edits).resolve none ⟨key, builtIn⟩ =
        ((Image.Edit.lastWrite edits key).or (o.get? key)).getD builtIn ∧
      ((∀ entry ∈ edits.flatMap Image.Edit.writes, entry.1 ≠ key) →
        ∀ explicit, (o.editAll edits).resolve explicit ⟨key, builtIn⟩ =
          o.resolve explicit ⟨key, builtIn⟩)) := by
  constructor
  -- what is compiled has been admitted with the overrides that were loaded
  · obtain ⟨images, m, a, himages, hm, ha⟩ := exitCode_compile_eq_zero_iff.1 h
    have hrun := run_compile_of_admission himages hm ha
    rw [loadImages_eq_map] at himages
    cases hconfig : loadConfig s config with
    | error e =>
      rw [hconfig] at himages
      cases himages
    | ok named =>
      rw [hconfig] at himages
      obtain rfl := Except.ok.inj himages
      obtain ⟨-, rfl⟩ := Manifest.admission_eq_ok_iff.1 ha
      refine ⟨m, named, _, hm, rfl, hrun, ?_⟩
      -- the overrides are those of the file over those of the environment
      have hchoose (explicit : Option String) (source : Image.Source)
          (hkey : source.key ∈ Image.keys) :=
        Image.resolve_merge_ofEnvironment explicit s.environment named hkey
      have hworkloads := m.spec.forall₂_image_workloads
        ((Image.Overrides.ofEnvironment Image.keys s.environment).merge named) m.name
      exact hworkloads.imp fun node w hw => hw.congr fun source hkey => hchoose node.2 source hkey
  -- edits are inserted one after the other, so the last one under a key is found
  · intro o edits key builtIn
    have hget := o.get?_editAll edits key
    constructor
    · rw [Image.Overrides.resolve, hget]
      rfl
    · intro hother explicit
      rw [Image.Edit.lastWrite_eq_none hother, Option.none_or] at hget
      rw [Image.Overrides.resolve, Image.Overrides.resolve, hget]

/-- A peer whose spec names no image, with an image for it in a configuration file and in the
    environment. -/
def Surroundings.withPeer : Surroundings where
  file name :=
    if name = "manifest.json" then
      .text "\x7b\"kind\": \"Peer\", \"name\": \"p\", \"spec\": \x7b\x7d\x7d"
    else if name = "config.json" then
      .text "\x7b\"images\": \x7b\"GO_IPFS_IMAGE\": \"file\"\x7d\x7d"
    else .absent
  environment key := if key = "GO_IPFS_IMAGE" then some "environment" else none

/-- A peer whose spec names no image gets that of the file, although the environment names one too.
    -/
theorem Command.image_compile_withPeer :
    ∃ w : Workload, w.launch.image = "file" ∧
      (compile "manifest.json" (some "config.json")).run Surroundings.withPeer =
        .success (line (Json.array [w.toJson]).indented) := by
  have hexit : ((compile "manifest.json" (some "config.json")).run
      Surroundings.withPeer).exitCode = 0 := by
    decide +kernel
  obtain ⟨⟨m, images, workloads, hm, himages, hrun, hworkloads⟩, -⟩ := image_compile hexit
  -- the manifest and the file are read by the program itself
  have hread : (loadManifest Surroundings.withPeer "manifest.json").map
      (fun m => (m.kind, m.spec.clientImages)) = .ok (.peer, [("go-ipfs", none)]) := by
    decide +kernel
  have hfile : (loadConfig Surroundings.withPeer (some "config.json")).map
      (fun o => o.get? "GO_IPFS_IMAGE") = .ok (some "file") := by
    decide +kernel
  rw [hm] at hread
  rw [himages] at hfile
  obtain ⟨hkind, hclients⟩ := Prod.mk.inj (Except.ok.inj hread)
  rw [hkind, hclients] at hworkloads
  obtain ⟨w, rest, hw, hrest, rfl⟩ := List.forall₂_cons_left_iff.1 hworkloads
  obtain rfl := List.forall₂_nil_left_iff.1 hrest
  obtain ⟨source, hsource, himage⟩ := hw.image_eq
  obtain rfl : Image.Source.mk "GO_IPFS_IMAGE" "ipfs/go-ipfs:v0.15.0" = source :=
    Option.some.inj ((by decide : _ = Image.source? .peer "go-ipfs").trans hsource)
  have hget : images.get? "GO_IPFS_IMAGE" = some "file" := Except.ok.inj hfile
  rw [hget] at himage
  exact ⟨w, himage, hrun⟩

end Nodewright
