import Nodewright.Proofs.Filling.Closure
import Nodewright.Proofs.Images.Influence

/-!
# Raw and filled manifests are interchangeable

Admission fills a manifest and the older one whose place it takes. What comes out is the same if
either of them has been filled before, even with other images: filling a second time changes
nothing, and no rule on changes looks at an image.

## Key results

- `Spec.changeProblems_fill`: the images of the older version make no difference
- `Manifest.admission_fill`: raw and filled manifests are admitted alike
-/

namespace Nodewright

/-- No rule on changes depends on the images with which the older version was filled. -/
theorem Spec.changeProblems_fill (images images' : Image.Overrides) (s t : Spec) :
    (s.fill images).changeProblems t = (s.fill images').changeProblems t := by
  -- no rule on changes looks at an image, and nothing else of the older version is different
  rw [← changeProblems_hideImages, hideImages_fill images images', changeProblems_hideImages]

/-- A manifest and the older one whose place it takes may be filled before they are admitted, with
    the images in force or, for the older one, with any others. The outcome is the same, and so are
    the workloads or the violations. -/
theorem Manifest.admission_fill (images images' images'' : Image.Overrides) (old : Option Manifest)
    (m : Manifest) :
    m.admission images old =
      (m.fill images).admission images'' (old.map (fill images')) := by
  have hold : (m.fill images).problemsAfter (old.map (fill images)) =
      (m.fill images).problemsAfter ((old.map (fill images')).map (fill images'')) := by
    cases old with
    | none => rfl
    | some old =>
      show (old.fill images).changeProblems _ = ((old.fill images').fill images'').changeProblems _
      rw [fill_fill]
      exact Spec.changeProblems_fill images images' old.spec _
  rw [admission, admission, fill_fill, hold]

end Nodewright
