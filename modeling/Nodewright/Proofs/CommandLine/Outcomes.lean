import Nodewright.CommandLine

/-!
# What a command has done that ends well

A command reads its images and its manifest before it does anything else, and ends with the exit
code zero only if all that has been asked for was done.

## Key results

- `loadImages_eq_map`: images come from the environment and from a configuration over it
- `loadInputs_eq_ok_iff`: what has been read is what stands in the files
- `run_fill`, `run_validate`, `run_compile`: what each command does with what it has read
- `run_compile_of_admission`: the workloads of an admitted manifest are printed
- `exitCode_compile_eq_zero_iff`: and nothing else ends well
-/

namespace Nodewright.Command

variable {s : Surroundings} {file : String} {config : Option String}
  {images : Image.Overrides} {m : Manifest} {a : Admitted}

/-- The images of the configuration file. There are none if no file is named. -/
def loadConfig (s : Surroundings) (config : Option String) :
    Except CommandError Image.Overrides :=
  match config with
  | some file => load s "config file" file Image.Overrides.ofText
  | none => .ok .none

/-- The images of a command are those of its configuration over those of its environment. -/
theorem loadImages_eq_map (s : Surroundings) (config : Option String) :
    loadImages s config = (loadConfig s config).map
      (Image.Overrides.ofEnvironment Image.keys s.environment).merge := by
  cases config <;> rfl

/-- Images and manifest are read if each of them can be read by itself. -/
theorem loadInputs_eq_ok_iff :
    loadInputs s file config = .ok (images, m) ↔
      loadImages s config = .ok images ∧ loadManifest s file = .ok m := by
  rw [loadInputs]
  -- the images are read first, so a manifest that cannot be read is not come to without them
  cases loadImages s config with
  | error e => simp [bind, Except.bind]
  | ok i =>
    cases loadManifest s file with
    | error e => simp [bind, Except.bind]
    | ok n => simp [bind, Except.bind, pure, Except.pure]

/-! ## Runs with inputs and without -/

/-- A command that failed says so with its exit code. -/
theorem exitCode_failure_ne_zero (output errors : String) :
    (Outcome.failure output errors).exitCode ≠ 0 := by
  show (1 : UInt32) ≠ 0
  decide

section Runs

/-- A command whose inputs cannot be read says why, and nothing else. -/
theorem run_of_loadInputs_eq_error {e : CommandError} (h : loadInputs s file config = .error e)
    (old : Option String) :
    (fill file config).run s = .failure "" e.message ∧
      (validate file old config).run s = .failure "" e.message ∧
      (compile file config).run s = .failure "" e.message := by
  refine ⟨?_, ?_, ?_⟩ <;> rw [run, outcome, h] <;> rfl

variable (h : loadInputs s file config = .ok (images, m))
include h

/-- The filled manifest is printed. -/
theorem run_fill : (fill file config).run s = .success (line (m.fill images).toJson.indented) := by
  rw [run, outcome, h]
  rfl

/-- The manifest is held against the older one, if that can be read. -/
theorem run_validate (old : Option String) :
    (validate file old config).run s =
      match loadOld s images old with
      | .ok old => verdict m ((m.fill images).problemsAfter old)
      | .error e => .failure "" e.message := by
  rw [run, outcome, h]
  -- the inputs are there, so all hangs on the older manifest
  simp only [bind, Except.bind, pure, Except.pure]
  cases loadOld s images old <;> rfl

/-- The workloads are printed if the manifest is admitted. -/
theorem run_compile :
    (compile file config).run s =
      match m.admission images none with
      | .ok a => .success (line (Json.array (a.workloads.map Workload.toJson)).indented)
      | .error r => .failure "" (CommandError.invalid r).message := by
  rw [run, outcome, h]
  simp only [bind, Except.bind, pure, Except.pure]
  cases m.admission images none <;> rfl

end Runs

/-! ## Commands that end well -/

/-- The workloads of a manifest that is admitted are printed, and nothing is said of errors. -/
theorem run_compile_of_admission (himages : loadImages s config = .ok images)
    (hm : loadManifest s file = .ok m) (ha : m.admission images none = .ok a) :
    (compile file config).run s =
      .success (line (Json.array (a.workloads.map Workload.toJson)).indented) := by
  rw [run_compile (loadInputs_eq_ok_iff.2 ⟨himages, hm⟩), ha]

/-- Workloads are made with the exit code zero exactly if the images and the manifest can be read,
    and the manifest is admitted. -/
theorem exitCode_compile_eq_zero_iff :
    ((compile file config).run s).exitCode = 0 ↔
      ∃ images m a, loadImages s config = .ok images ∧ loadManifest s file = .ok m ∧
        m.admission images none = .ok a := by
  constructor
  · intro h
    -- an error of any sort ends with the exit code one
    cases hinputs : loadInputs s file config with
    | error e =>
      rw [(run_of_loadInputs_eq_error hinputs none).2.2] at h
      exact absurd h (exitCode_failure_ne_zero _ _)
    | ok inputs =>
      obtain ⟨images, m⟩ := inputs
      obtain ⟨himages, hm⟩ := loadInputs_eq_ok_iff.1 hinputs
      rw [run_compile hinputs] at h
      cases ha : m.admission images none with
      | error r =>
        rw [ha] at h
        exact absurd h (exitCode_failure_ne_zero _ _)
      | ok a => exact ⟨images, m, a, himages, hm, ha⟩
  · rintro ⟨images, m, a, himages, hm, ha⟩
    rw [run_compile_of_admission himages hm ha]
    rfl

end Nodewright.Command
