import Nodewright.Proofs.Images.Precedence

/-!
# Images that are empty

A spec, a configuration file and an environment may all name an image that is empty. The environment
is asked for the next image then, as if it had named none. A file is not: what it has under a key
stands over what the environment has there, whether it is empty or not, and the client is not asked
any more.

## Key results

- `Image.prefer_eq_empty_iff`: the image that is preferred is empty if that of the file is
- `Spec.forall₂_image_eq_empty_iff`: which workloads of a filled spec have no image
- `Command.exists_workloads_of_exitCode`: what is printed by a command that ends well
- `Command.empty_image_compile_iff`: which nodes are compiled without an image
-/

namespace Nodewright

namespace Image

/-- An environment does not name the empty image. -/
theorem Overrides.named_ne_empty (value : Option String) : named value ≠ some "" := by
  intro h
  simpa using (Option.filter_eq_some_iff.1 h).2

/-- No client of the catalogue has an empty image. -/
theorem builtIn_ne_empty {kind : Kind} {client : String} {source : Source}
    (h : source? kind client = some source) : source.builtIn ≠ "" := by
  have hall : ∀ row ∈ catalogue, row.2.builtIn ≠ "" := by decide
  obtain ⟨row, hrow, rfl⟩ := Option.map_eq_some_iff.1 h
  exact hall row (List.mem_of_find?_eq_some hrow)

/-- Where the other three places name no empty image, the one that is preferred is empty if the
    spec leaves it to the file, and the file names the empty one. -/
theorem prefer_eq_empty_iff {explicit file environment : Option String} {builtIn : String}
    (hexplicit : explicit ≠ some "") (henvironment : environment ≠ some "")
    (hbuiltIn : builtIn ≠ "") :
    prefer explicit file environment builtIn = "" ↔ explicit = none ∧ file = some "" := by
  -- the cases follow the order in which the places are asked
  cases explicit with
  | some image => simpa [prefer] using hexplicit
  | none =>
    cases file with
    | some image => simp [prefer]
    | none =>
      cases environment with
      | some image => simpa [prefer] using henvironment
      | none => simpa [prefer] using hbuiltIn

end Image

/-- A configuration file takes the image of a node away: the spec leaves it to the file, and the
    file has the empty one under the key of the client. -/
def Image.Overrides.Empties (file : Overrides) (kind : Kind) (node : String × Option String) :
    Prop :=
  node.2 = .none ∧ ∃ source, source? kind node.1 = some source ∧ file.get? source.key = some ""

/-- The workload of a node has an empty image only from the file that is merged last. -/
theorem Workload.HasImage.image_eq_empty_iff {kind : Kind} {value : String → Option String}
    {file : Image.Overrides} {node : String × Option String} {w : Workload}
    (h : w.HasImage kind ((Image.Overrides.ofEnvironment Image.keys value).merge file).resolve node)
    (hexplicit : node.2 ≠ some "") : w.launch.image = "" ↔ file.Empties kind node := by
  -- the image is chosen between the spec, the file, the environment and the client
  obtain ⟨source, hsource, himage⟩ := h.image_eq
  have hchoose := Image.resolve_merge_ofEnvironment node.2 value file (Image.key_mem_keys hsource)
  rw [himage, hchoose, Image.prefer_eq_empty_iff hexplicit (Image.Overrides.named_ne_empty _)
    (Image.builtIn_ne_empty hsource), Image.Overrides.Empties, hsource]
  simp

/-- A spec that names no empty image is filled with one exactly where the file has it. -/
theorem Spec.forall₂_image_eq_empty_iff {s : Spec}
    (hexplicit : ∀ node ∈ s.clientImages, node.2 ≠ some "") (value : String → Option String)
    (file : Image.Overrides) (name : String) :
    List.Forall₂ (fun node (w : Workload) => w.launch.image = "" ↔ file.Empties s.kind node)
      s.clientImages
      ((s.fill ((Image.Overrides.ofEnvironment Image.keys value).merge file)).workloads name) := by
  have hworkloads := s.forall₂_image_workloads
    ((Image.Overrides.ofEnvironment Image.keys value).merge file) name
  refine ((List.forall₂_and_left _ _).2 ⟨hexplicit, hworkloads⟩).imp ?_
  rintro node w ⟨hnode, hw⟩
  exact hw.image_eq_empty_iff hnode

namespace Command

/-- A command that ends well has read a manifest and a configuration, and prints the workloads of
    the manifest, filled with the images of the configuration over those of the environment. -/
theorem exists_workloads_of_exitCode {s : Surroundings} {file : String} {config : Option String}
    (h : ((compile file config).run s).exitCode = 0) :
    ∃ (m : Manifest) (images : Image.Overrides),
      loadManifest s file = .ok m ∧ loadConfig s config = .ok images ∧
      (compile file config).run s = .success (line (Json.array ((m.fill
        ((Image.Overrides.ofEnvironment Image.keys s.environment).merge images)).workloads.map
          Workload.toJson)).indented) := by
  obtain ⟨merged, m, a, himages, hm, ha⟩ := exitCode_compile_eq_zero_iff.1 h
  have hrun := run_compile_of_admission himages hm ha
  rw [loadImages_eq_map] at himages
  -- what was merged is the file over the environment
  obtain ⟨images, hconfig, rfl⟩ : ∃ images, loadConfig s config = .ok images ∧
      (Image.Overrides.ofEnvironment Image.keys s.environment).merge images = merged := by
    cases hconfig : loadConfig s config with
    | error e => simp [hconfig, Except.map] at himages
    | ok images => exact ⟨images, rfl, by simpa [hconfig, Except.map] using himages⟩
  obtain ⟨-, rfl⟩ := Manifest.admission_eq_ok_iff.1 ha
  exact ⟨m, images, hm, hconfig, hrun⟩

/-- A node that is compiled from a spec without empty images has an empty one exactly if the spec
    names none for it, and the configuration file has the empty one under the key of its kind and
    client, whatever the environment has there. So no node has it if no image of the file is
    empty. -/
theorem empty_image_compile_iff {s : Surroundings} {file : String} {config : Option String}
    (h : ((compile file config).run s).exitCode = 0) :
    ∃ (m : Manifest) (images : Image.Overrides) (workloads : List Workload),
      loadManifest s file = .ok m ∧ loadConfig s config = .ok images ∧
      (compile file config).run s =
        .success (line (Json.array (workloads.map Workload.toJson)).indented) ∧
      ((∀ node ∈ m.spec.clientImages, node.2 ≠ some "") →
        List.Forall₂ (fun node w => w.launch.image = "" ↔ images.Empties m.kind node)
          m.spec.clientImages workloads ∧
        ((∀ key ∈ Image.keys, images.get? key ≠ some "") →
          ∀ w ∈ workloads, w.launch.image ≠ "")) := by
  obtain ⟨m, images, hm, hconfig, hrun⟩ := exists_workloads_of_exitCode h
  refine ⟨m, images, _, hm, hconfig, hrun, fun hexplicit => ?_⟩
  have hworkloads := Spec.forall₂_image_eq_empty_iff hexplicit s.environment images m.name
  refine ⟨hworkloads, fun hkeys => ?_⟩
  -- an empty image would come from a key of the file
  have hnone (node : String × Option String) : ¬ images.Empties m.kind node := by
    rintro ⟨-, source, hsource, hget⟩
    exact hkeys source.key (Image.key_mem_keys hsource) hget
  have hfilled : List.Forall₂ (fun (w : Workload) (_ : String × Option String) =>
      w.launch.image ≠ "" ∧ True) _ m.spec.clientImages :=
    (hworkloads.imp fun node w hw => ⟨fun hempty => hnone node (hw.1 hempty), trivial⟩).flip
  exact ((List.forall₂_and_left _ _).1 hfilled).1

end Command

/-- A peer whose spec names no image, with an image for it in the environment, and the empty one in
    a configuration file. -/
def Surroundings.withEmptyImage : Surroundings where
  file name :=
    if name = "config.json" then
      .text "\x7b\"images\": \x7b\"GO_IPFS_IMAGE\": \"\"\x7d\x7d"
    else withPeer.file name
  environment := withPeer.environment

/-- What is read from the two files there: a peer without an image, and the empty image for its
    client. -/
theorem Surroundings.empties_withEmptyImage {m : Manifest} {images : Image.Overrides}
    (hm : Command.loadManifest withEmptyImage "manifest.json" = .ok m)
    (himages : Command.loadConfig withEmptyImage (some "config.json") = .ok images) :
    m.spec.clientImages = [("go-ipfs", none)] ∧ images.Empties m.kind ("go-ipfs", none) := by
  have hread : (Command.loadManifest withEmptyImage "manifest.json").map
      (fun m => (m.kind, m.spec.clientImages)) = .ok (.peer, [("go-ipfs", none)]) := by
    decide +kernel
  have hfile : (Command.loadConfig withEmptyImage (some "config.json")).map
      (fun o => o.get? "GO_IPFS_IMAGE") = .ok (some "") := by
    decide +kernel
  rw [hm] at hread
  rw [himages] at hfile
  obtain ⟨hkind, hclients⟩ := Prod.mk.inj (Except.ok.inj hread)
  rw [hkind]
  exact ⟨hclients, rfl, ⟨"GO_IPFS_IMAGE", "ipfs/go-ipfs:v0.15.0"⟩, by decide, Except.ok.inj hfile⟩

/-- The command ends well there. -/
theorem Surroundings.exitCode_withEmptyImage :
    ((Command.compile "manifest.json" (some "config.json")).run withEmptyImage).exitCode = 0 := by
  decide +kernel

/-- The node that is printed has no image, though the environment names one. -/
theorem Command.empty_image_compile_iff_withEmptyImage :
    ∃ w : Workload, w.launch.image = "" ∧
      (compile "manifest.json" (some "config.json")).run Surroundings.withEmptyImage =
        .success (line (Json.array [w.toJson]).indented) := by
  obtain ⟨m, images, workloads, hm, himages, hrun, hworkloads⟩ :=
    empty_image_compile_iff Surroundings.exitCode_withEmptyImage
  obtain ⟨hclients, hempties⟩ := Surroundings.empties_withEmptyImage hm himages
  rw [hclients] at hworkloads
  obtain ⟨w, rest, hw, hrest, rfl⟩ := List.forall₂_cons_left_iff.1 (hworkloads (by simp)).1
  obtain rfl := List.forall₂_nil_left_iff.1 hrest
  exact ⟨w, hw.2 hempties, hrun⟩

/-- So a manifest that names no empty image may be compiled into a node that has one. -/
theorem Command.exists_empty_image_compile :
    ∃ (s : Surroundings) (file : String) (config : Option String) (m : Manifest)
      (images : Image.Overrides) (workloads : List Workload),
      loadManifest s file = .ok m ∧ loadConfig s config = .ok images ∧
      (∀ node ∈ m.spec.clientImages, node.2 ≠ some "") ∧
      (compile file config).run s =
        .success (line (Json.array (workloads.map Workload.toJson)).indented) ∧
      ∃ w ∈ workloads, w.launch.image = "" := by
  obtain ⟨m, images, hm, himages, hrun⟩ :=
    exists_workloads_of_exitCode Surroundings.exitCode_withEmptyImage
  obtain ⟨hclients, hempties⟩ := Surroundings.empties_withEmptyImage hm himages
  have hexplicit : ∀ node ∈ m.spec.clientImages, node.2 ≠ some "" := by
    rw [hclients]
    simp
  have hworkloads := Spec.forall₂_image_eq_empty_iff hexplicit
    Surroundings.withEmptyImage.environment images m.name
  rw [hclients] at hworkloads
  obtain ⟨w, rest, hw, -, heq⟩ := List.forall₂_cons_left_iff.1 hworkloads
  rw [Manifest.workloads, Manifest.fill, heq] at hrun
  exact ⟨_, _, _, m, images, _, hm, himages, hexplicit, hrun, w, List.mem_cons_self,
    hw.2 hempties⟩

end Nodewright
