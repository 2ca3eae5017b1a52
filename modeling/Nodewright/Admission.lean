import Nodewright.Manifest

/-! # Admission

A manifest is admitted if it is valid once it is filled, by itself or in the place of an older one.
Then it is turned into workloads; nothing is made of a manifest that is not valid.

* `Manifest.admission`   the filled manifest with its workloads, or why it is rejected
* `Admitted`   what admission gives -/

namespace Nodewright

/-- A manifest that is not valid, with all that is wrong with it. -/
structure Rejection where
  kind : Kind
  name : String
  report : Report
deriving DecidableEq

/-- The wording of a rejection. -/
def Rejection.message (r : Rejection) : String :=
  r.kind.name ++ " " ++ Text.quoted r.name ++ " is invalid: " ++ Report.text r.report

/-- A manifest that has been admitted, with what the backend has to run. -/
structure Admitted where
  manifest : Manifest
  workloads : List Workload
deriving DecidableEq

namespace Manifest

/-- The usual settings where none are given. -/
def fill (images : Image.Overrides) (m : Manifest) : Manifest :=
  { m with spec := m.spec.fill images }

/-- What is wrong with a manifest by itself. -/
def problems (m : Manifest) : Report := m.spec.problems

/-- What is wrong with a manifest that takes the place of an older one. -/
def changeProblems (old new : Manifest) : Report := old.spec.changeProblems new.spec

/-- What is wrong with a manifest, in the place of an older one if there is one. -/
def problemsAfter (old : Option Manifest) (m : Manifest) : Report :=
  match old with
  | some old => old.changeProblems m
  | none => m.problems

/-- The workloads of a manifest. -/
def workloads (m : Manifest) : List Workload := m.spec.workloads m.name

/-- Fills a manifest, and the older one whose place it takes, and admits it if it is valid. -/
def admission (images : Image.Overrides) (old : Option Manifest) (m : Manifest) :
    Except Rejection Admitted :=
  let m := m.fill images
  match m.problemsAfter (old.map (fill images)) with
  | [] => .ok ⟨m, m.workloads⟩
  | report => .error ⟨m.kind, m.name, report⟩

@[simp] theorem name_fill (images : Image.Overrides) (m : Manifest) :
    (m.fill images).name = m.name := rfl

@[simp] theorem kind_fill (images : Image.Overrides) (m : Manifest) :
    (m.fill images).kind = m.kind := Spec.kind_fill images m.spec

end Manifest

end Nodewright
