import Nodewright.Proofs.Admission.Interchange
import Nodewright.Proofs.CommandLine.Outcomes
import Nodewright.Proofs.Images.Precedence
import Nodewright.Proofs.Manifest.RoundTrip

/-!
# What `default` prints is settled

The text of a filled manifest leaves nothing to fill in. In the place of the text that it was made
from, it is printed again as it is, and it is valid, or compiled, exactly as the text before, even
where other images are in force.

## Key results

- `exitCode_fill_eq_zero_iff`: what it takes that a manifest is printed
- `loadManifest_of_printed`: what has been printed is read back
- `run_of_printed`: commands on the text that has been printed, under any images
-/

namespace Nodewright.Command

variable {s s' : Surroundings} {file file' : String} {config config' : Option String}
  {images images' : Image.Overrides} {m : Manifest}

/-- A manifest is printed with the exit code zero exactly if the images and the manifest can be
    read. -/
theorem exitCode_fill_eq_zero_iff :
    ((fill file config).run s).exitCode = 0 ↔
      ∃ images m, loadInputs s file config = .ok (images, m) := by
  constructor
  · intro h
    cases hinputs : loadInputs s file config with
    | error e =>
      rw [(run_of_loadInputs_eq_error hinputs none).1] at h
      exact absurd h (exitCode_failure_ne_zero _ _)
    | ok inputs => exact ⟨inputs.1, inputs.2, rfl⟩
  · rintro ⟨images, m, hinputs⟩
    rw [run_fill hinputs]
    rfl

/-- A manifest that has been printed is read back, with the end of the line behind it. -/
theorem loadManifest_of_printed (h : s.file file = .text (line m.toJson.indented)) :
    loadManifest s file = .ok m := by
  have hblank : ∀ c ∈ ['\n'], Json.isBlank c = true := List.forall_mem_singleton.2 rfl
  have hread : Manifest.ofText (line m.toJson.indented) = .ok m :=
    m.ofText_indented_append hblank
  rw [loadManifest, load, h]
  simp only [hread]

/-- Nothing that is said of a manifest depends on how it is filled. -/
theorem verdict_fill (images : Image.Overrides) (m : Manifest) (report : Report) :
    verdict (m.fill images) report = verdict m report := by
  rw [verdict, Manifest.kind_fill, Manifest.name_fill]
  rfl

/-- An older manifest in a file that is the same in both places is read in both of them or in
    neither, and filled with the images in force. -/
theorem loadOld_eq_map {old : Option String} (h : ∀ name ∈ old, s'.file name = s.file name)
    (images images' : Image.Overrides) :
    ∃ read : Except CommandError (Option Manifest),
      loadOld s images old = read.map (Option.map (Manifest.fill images)) ∧
        loadOld s' images' old = read.map (Option.map (Manifest.fill images')) := by
  cases old with
  | none => exact ⟨.ok none, rfl, rfl⟩
  | some name =>
    have hload : loadManifest s' name = loadManifest s name := by
      rw [loadManifest, loadManifest, load, load, h name rfl]
    refine ⟨(loadManifest s name).map some, ?_, ?_⟩
    · rw [loadOld]
      cases loadManifest s name <;> rfl
    · rw [loadOld, hload]
      cases loadManifest s name <;> rfl

/-- The text that `default` prints is a fixed point, and it settles what comes out of the others.
    Where it stands in a file and other images are in force, the same text is printed again, and
    validation, by itself or in the place of an older manifest, and compilation leave behind what
    they left behind for the text that it was made from. -/
theorem run_of_printed (h : ((fill file config).run s).exitCode = 0)
    (hprinted : s'.file file' = .text ((fill file config).run s).output)
    (himages : loadImages s' config' = .ok images') :
    (fill file' config').run s' = (fill file config).run s ∧
      (compile file' config').run s' = (compile file config).run s ∧
      ∀ old : Option String, (∀ name ∈ old, s'.file name = s.file name) →
        (validate file' old config').run s' = (validate file old config).run s := by
  obtain ⟨images, m, hinputs⟩ := exitCode_fill_eq_zero_iff.1 h
  rw [run_fill hinputs] at hprinted
  have hinputs' : loadInputs s' file' config' = .ok (images', m.fill images) :=
    loadInputs_eq_ok_iff.2 ⟨himages, loadManifest_of_printed hprinted⟩
  have hfill : (m.fill images).fill images' = m.fill images := m.fill_fill images images'
  refine ⟨?_, ?_, fun old hold => ?_⟩
  · rw [run_fill hinputs', run_fill hinputs, hfill]
  · have hadmission : (m.fill images).admission images' none = m.admission images none := by
      rw [Manifest.admission, Manifest.admission, hfill]
      rfl
    rw [run_compile hinputs', run_compile hinputs, hadmission]
  · obtain ⟨read, hread, hread'⟩ := loadOld_eq_map hold images images'
    rw [run_validate hinputs', run_validate hinputs, hread, hread', hfill]
    cases read with
    | error e => rfl
    | ok o =>
      -- no rule on changes looks at the images of the older manifest
      have hproblems : (m.fill images).problemsAfter (o.map (Manifest.fill images')) =
          (m.fill images).problemsAfter (o.map (Manifest.fill images)) := by
        cases o with
        | none => rfl
        | some o => exact Spec.changeProblems_fill images' images o.spec _
      simp only [Except.map, verdict_fill, hproblems]

end Nodewright.Command

namespace Nodewright

/-- What has been printed for a peer, in a file of its own, with another image for it in the
    environment. -/
def Surroundings.withPrinted : Surroundings where
  file name :=
    if name = "printed.json" then
      .text ((Command.fill "manifest.json" (some "config.json")).run .withPeer).output
    else .absent
  environment key := if key = "GO_IPFS_IMAGE" then some "other" else none

/-- The image that was printed stays, though the environment names another one by then. -/
theorem Command.run_of_printed_withPeer :
    (fill "printed.json" none).run .withPrinted =
        (fill "manifest.json" (some "config.json")).run .withPeer ∧
      (compile "printed.json" none).run .withPrinted =
        (compile "manifest.json" (some "config.json")).run .withPeer ∧
      (validate "printed.json" none none).run .withPrinted =
        (validate "manifest.json" none (some "config.json")).run .withPeer := by
  have hexit : ((fill "manifest.json" (some "config.json")).run .withPeer).exitCode = 0 := by
    decide +kernel
  have hprinted : Surroundings.withPrinted.file "printed.json" =
      .text ((fill "manifest.json" (some "config.json")).run .withPeer).output := rfl
  have himages : loadImages .withPrinted none = .ok _ := rfl
  obtain ⟨hfill, hcompile, hvalidate⟩ := run_of_printed hexit hprinted himages
  exact ⟨hfill, hcompile, hvalidate none nofun⟩

end Nodewright
