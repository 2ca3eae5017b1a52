import Nodewright.Admission
import Nodewright.Proofs.Execution.NodeMaps

/-!
# What images have an influence on

Overrides choose images, and an image is handed to the backend as it is. Nothing else is made of it:
no rule looks at an image, and no argument or variable of a launch is made from one. So other
overrides lead to the same reports, and to workloads that differ in their images only.

## Key results

- `Manifest.hideImages`, `Workload.hideImage`: what is left without images
- `Spec.hideImages_fill`: other overrides put in other images, and nothing else
- `Spec.problems_hideImages`, `Spec.changeProblems_hideImages`: no rule looks at an image
- `Spec.map_hideImage_workloads`: nothing but an image is made of an image
- `Manifest.same_but_images`: filling, checking and admission under any two overrides
-/

namespace Nodewright

/-! ## What is left without images -/

/-- A node without its image. -/
def Execution.Node.hideImage (n : Execution.Node) : Execution.Node := { n with image := none }

/-- A network without the images of its nodes. -/
def Execution.Network.hideImages (n : Execution.Network) : Execution.Network :=
  { n with nodes := n.nodes.map Execution.Node.hideImage }

/-- A spec without its images. -/
def Spec.hideImages : Spec → Spec
  | network s => network s.hideImages
  | beaconNode s => beaconNode { s with image := none }
  | validator s => validator { s with image := none }
  | peer s => peer { s with image := none }
  | clusterPeer s => clusterPeer { s with image := none }
  | chainlinkNode s => chainlinkNode { s with image := none }
  | aptosNode s => aptosNode { s with image := none }

/-- A manifest without its images. Manifests are left with the same if they differ in images
    only. -/
def Manifest.hideImages (m : Manifest) : Manifest := { m with spec := m.spec.hideImages }

/-- A launch without its image. -/
def Launch.hideImage (l : Launch) : Launch := { l with image := "" }

/-- A workload without its image. -/
def Workload.hideImage (w : Workload) : Workload := { w with launch := w.launch.hideImage }

/-- What admission gives, without the images. -/
def Admitted.hideImages (a : Admitted) : Admitted where
  manifest := a.manifest.hideImages
  workloads := a.workloads.map Workload.hideImage

/-! ## Filling under other overrides -/

section Filling

variable (images images' : Image.Overrides)

/-- Under other overrides a spec is filled with other images, and with nothing else. -/
theorem Spec.hideImages_fill (s : Spec) :
    (s.fill images).hideImages = (s.fill images').hideImages := by
  cases s with
  | network s =>
    -- the chain is filled without a look at the overrides, and the nodes one by one
    have hnode (n : Execution.Node) :
        (n.fill images).hideImage = (n.fill images').hideImage := rfl
    have hnodes : (s.nodes.map (Execution.Node.fill images)).map Execution.Node.hideImage =
        (s.nodes.map (Execution.Node.fill images')).map Execution.Node.hideImage := by
      rw [List.map_map, List.map_map]
      exact List.map_congr_left fun n _ => hnode n
    simp only [fill, hideImages, Execution.Network.fill, Execution.Network.hideImages, hnodes]
  | _ => rfl

end Filling

/-! ## Rules do not look at images -/

namespace Execution.Network

/-- No rule of a network looks at the images of its nodes. -/
theorem unnoticed_hideImage : Node.Unnoticed Node.hideImage :=
  ⟨fun _ => rfl, fun _ => rfl, fun _ => rfl, fun _ _ _ => rfl⟩

/-- So a network has the same problems without them. -/
theorem problems_hideImages (n : Network) : n.hideImages.problems = n.problems :=
  problems_mapNodes unnoticed_hideImage n

theorem transitions_hideImages (old new : Network) :
    old.hideImages.transitions new.hideImages = old.transitions new :=
  transitions_mapNodes unnoticed_hideImage unnoticed_hideImage old new

end Execution.Network

namespace Spec

/-- No rule on a spec by itself looks at an image. -/
theorem problems_hideImages (s : Spec) : s.hideImages.problems = s.problems := by
  cases s with
  | network s => exact s.problems_hideImages
  | _ => rfl

/-- No rule on changes looks at an image, of the older spec or of the newer one. -/
theorem changeProblems_hideImages (old new : Spec) :
    old.hideImages.changeProblems new.hideImages = old.changeProblems new := by
  cases old with
  | network old =>
    -- specs of different kinds are not compared
    cases new with
    | network new =>
      have hproblems := new.problems_hideImages
      have htransitions := old.transitions_hideImages new
      exact congrArg₂ (· ++ ·) hproblems htransitions
    | _ => rfl
  | _ => cases new <;> rfl

end Spec

/-! ## Launches are not made from images -/

/-- A workload depends on the image through its launch only. -/
theorem Workload.hideImage_ofLaunch {launch launch' : Launch}
    (h : launch.hideImage = launch'.hideImage) (name : String) (kind : Kind)
    (client role : String) (resources : Resources) :
    (ofLaunch name kind client role launch resources).hideImage =
      (ofLaunch name kind client role launch' resources).hideImage := by
  simp only [hideImage, ofLaunch, h]

/-- The launch of an execution node has its image from the node, and nothing else depends on that.
    -/
theorem Execution.Client.launch_hideImage (client : Client) (c : Chain) (n : Node) :
    (client.launch c n.hideImage).hideImage = (client.launch c n).hideImage := by
  cases client <;> rfl

/-- So it is with the launch of a beacon node. -/
theorem Beacon.Client.nodeLaunch_hideImage (client : Client) (n : Node) :
    (client.nodeLaunch { n with image := none }).hideImage = (client.nodeLaunch n).hideImage := by
  cases client <;> rfl

/-- And with that of a validator. -/
theorem Beacon.Client.validatorLaunch_hideImage (client : Client) (v : Validator) :
    (client.validatorLaunch { v with image := none }).hideImage =
      (client.validatorLaunch v).hideImage := by
  cases client <;> rfl

/-- Without their images, the workloads of a spec are those that it has without its images. -/
theorem Spec.map_hideImage_workloads (name : String) (s : Spec) :
    (s.hideImages.workloads name).map Workload.hideImage =
      (s.workloads name).map Workload.hideImage := by
  cases s with
  | network s =>
    -- a network has one workload for each node, in the order of the nodes
    have hworkload (n : Execution.Node) :
        (n.hideImage.workload name s.chain).hideImage = (n.workload name s.chain).hideImage :=
      Workload.hideImage_ofLaunch (n.client.launch_hideImage s.chain n) _ _ _ _ _
    simp only [workloads, hideImages, Execution.Network.workloads, Execution.Network.hideImages,
      List.map_map]
    exact List.map_congr_left fun n _ => hworkload n
  | beaconNode s =>
    have hlaunch := s.client.nodeLaunch_hideImage s
    exact congrArg (fun w => [w]) (Workload.hideImage_ofLaunch hlaunch _ _ _ _ _)
  | validator s =>
    have hlaunch := s.client.validatorLaunch_hideImage s
    exact congrArg (fun w => [w]) (Workload.hideImage_ofLaunch hlaunch _ _ _ _ _)
  -- the other kinds have one client each
  | _ => rfl

/-! ## Admission under other overrides -/

namespace Manifest

variable {m m' old old' : Manifest}

/-- Manifests that differ in images only have the same problems. -/
theorem problems_eq_of_hideImages (h : m.hideImages = m'.hideImages) :
    m.problems = m'.problems := by
  have hspec : m.spec.hideImages = m'.spec.hideImages := congrArg Manifest.spec h
  rw [problems, problems, ← Spec.problems_hideImages, hspec, Spec.problems_hideImages]

/-- So do they in the places of manifests that differ in images only. -/
theorem changeProblems_eq_of_hideImages (hold : old.hideImages = old'.hideImages)
    (h : m.hideImages = m'.hideImages) : old.changeProblems m = old'.changeProblems m' := by
  have hspec : m.spec.hideImages = m'.spec.hideImages := congrArg Manifest.spec h
  have hspecOld : old.spec.hideImages = old'.spec.hideImages := congrArg Manifest.spec hold
  rw [changeProblems, changeProblems, ← Spec.changeProblems_hideImages, hspecOld, hspec,
    Spec.changeProblems_hideImages]

/-- Their workloads differ in images only. -/
theorem workloads_eq_of_hideImages (h : m.hideImages = m'.hideImages) :
    m.workloads.map Workload.hideImage = m'.workloads.map Workload.hideImage := by
  obtain ⟨hname, hspec⟩ := Manifest.mk.inj h
  rw [workloads, workloads, ← Spec.map_hideImage_workloads, hname, hspec,
    Spec.map_hideImage_workloads]

/-- Under other overrides a manifest is filled with other images, and with nothing else. -/
theorem hideImages_fill (images images' : Image.Overrides) (m : Manifest) :
    (m.fill images).hideImages = (m.fill images').hideImages :=
  congrArg (mk m.name) (Spec.hideImages_fill images images' m.spec)

/-- Under any two overrides a manifest is filled alike but for its images, has the same problems by
    itself and in the place of any older manifest, and is admitted under both or under neither:
    either with workloads that are alike but for their images, or rejected for the same reasons. -/
theorem same_but_images (images images' : Image.Overrides) (old : Option Manifest)
    (m : Manifest) :
    (m.fill images).hideImages = (m.fill images').hideImages ∧
      (m.fill images).problems = (m.fill images').problems ∧
      (∀ o : Manifest, o.changeProblems (m.fill images) = o.changeProblems (m.fill images') ∧
        (o.fill images).changeProblems (m.fill images) =
          (o.fill images').changeProblems (m.fill images')) ∧
      (m.admission images old).map Admitted.hideImages =
        (m.admission images' old).map Admitted.hideImages := by
  have hfill := hideImages_fill images images' m
  have hproblems := problems_eq_of_hideImages hfill
  have hchange (o : Manifest) : (o.fill images).changeProblems (m.fill images) =
      (o.fill images').changeProblems (m.fill images') :=
    changeProblems_eq_of_hideImages (hideImages_fill images images' o) hfill
  have hafter : (m.fill images).problemsAfter (old.map (fill images)) =
      (m.fill images').problemsAfter (old.map (fill images')) := by
    -- without an older manifest the problems are those of the manifest itself
    cases old with
    | none => exact hproblems
    | some o => exact hchange o
  refine ⟨hfill, hproblems, fun o => ⟨changeProblems_eq_of_hideImages rfl hfill, hchange o⟩, ?_⟩
  -- both admissions find the same problems, and so take the same branch
  rw [admission, admission, hafter]
  split
  · have hworkloads := workloads_eq_of_hideImages hfill
    simp only [Except.map, Admitted.hideImages, hfill, hworkloads]
  · simp only [Except.map, kind_fill, name_fill]

end Manifest

end Nodewright
