import Nodewright.Proofs.Admission.Demands
import Nodewright.Proofs.Report.Distinct

/-!
# What the report on a change leaves out

The report on a manifest in the place of an older one is complete if it starts with all problems of
the manifest itself, and goes on with what shows only in comparison with the older one. It is
complete for manifests of one kind. A manifest of another kind is reported for the change of its
kind alone, so its own problems stay unsaid.

## Key results

- `Demand.isTransition_of_mem_report`: a broken demand shows only in comparison
- `Manifest.completeAfter_iff`: when the report on a change is complete
-/

namespace Nodewright

/-- That a field must not change shows only in comparison. -/
theorem Violation.isTransition_immutable (field : FieldPath) (value : Violation.Value) :
    (immutable field value).IsTransition := ⟨rfl, .inl rfl⟩

/-- A broken demand shows only in comparison. -/
theorem Demand.isTransition_of_mem_report {old new : Json} {d : Demand} {v : Violation}
    (h : v ∈ d.report old new) : v.IsTransition := by
  cases d with
  | same place =>
    obtain ⟨-, rfl⟩ := Report.mem_when.1 h
    exact Violation.isTransition_immutable _ _
  | noLess place =>
    rw [report] at h
    split at h
    · next t s hold hnew =>
      obtain ⟨-, rfl⟩ := Report.mem_when.1 h
      exact ⟨rfl, .inr ⟨t, rfl⟩⟩
    · exact absurd h List.not_mem_nil

namespace Manifest

variable {old new : Manifest}

/-- The report on a change has all problems of the new manifest, in their order, and beyond them
    only what shows in comparison. -/
def CompleteAfter (old new : Manifest) : Prop :=
  ∃ changes, old.changeProblems new = new.problems ++ changes ∧ ∀ v ∈ changes, v.IsTransition

/-- A manifest of another kind is reported for nothing else. -/
theorem changeProblems_of_kind_ne (h : old.kind ≠ new.kind) :
    old.changeProblems new = [.immutable (.ofRoot "kind") (.text new.kind.name)] := by
  obtain ⟨_, s⟩ := old
  obtain ⟨_, t⟩ := new
  cases s <;> cases t <;> first | exact absurd rfl h | rfl

/-- The report on a manifest of the same kind is complete. -/
theorem completeAfter_of_kind_eq (h : old.kind = new.kind) : old.CompleteAfter new := by
  refine ⟨_, Spec.changeProblems_eq h, fun v hv => ?_⟩
  obtain ⟨d, -, hv⟩ := List.mem_flatMap.1 hv
  exact Demand.isTransition_of_mem_report hv

/-- The report on a change is complete exactly if the kind stays, or there is nothing else to
    report. -/
theorem completeAfter_iff : old.CompleteAfter new ↔ old.kind = new.kind ∨ new.problems = [] := by
  constructor
  · rintro ⟨changes, hreport, -⟩
    by_cases hkind : old.kind = new.kind
    · exact .inl hkind
    · refine .inr (List.eq_nil_iff_forall_not_mem.2 fun v hv => ?_)
      -- the only violation that is reported is not in the spec
      have hmem : v ∈ old.changeProblems new := by
        rw [hreport]
        exact List.mem_append_left _ hv
      rw [changeProblems_of_kind_ne hkind] at hmem
      obtain rfl := List.mem_singleton.1 hmem
      have hroot : "kind" = "spec" := new.spec.under_problems _ hv
      exact absurd hroot (by decide)
  · rintro (hkind | hnone)
    · exact completeAfter_of_kind_eq hkind
    · by_cases hkind : old.kind = new.kind
      · exact completeAfter_of_kind_eq hkind
      · refine ⟨_, by rw [hnone, changeProblems_of_kind_ne hkind, List.nil_append], ?_⟩
        intro v hv
        obtain rfl := List.mem_singleton.1 hv
        exact Violation.isTransition_immutable _ _

/-- A peer of which nothing is said. -/
def barePeer : Manifest where
  name := "v"
  spec := .peer
    { client := .goIpfs, image := none, initProfiles := [], profiles := [], apiHost := none
      apiPort := none, gatewayHost := none, gatewayPort := none, routing := none
      swarmKeySecretName := none, logging := none, resources := .none }

/-- A validator of Prysm that lacks an endpoint and the password of its wallet. -/
def bareValidator : Manifest where
  name := "v"
  spec := .validator
    { client := .prysm, image := none, network := "mainnet", beaconEndpoints := []
      graffiti := none, feeRecipient := none, keystores := [], walletPasswordSecret := none
      certSecretName := none, logging := none, resources := .none }

/-- In the place of the peer, the validator is reported for its kind only, though two of its own
    fields are wrong. -/
theorem not_completeAfter_bareValidator :
    barePeer.changeProblems bareValidator =
        [.immutable (.ofRoot "kind") (.text "Validator")] ∧
      bareValidator.problems =
        [.required (FieldPath.field "beaconEndpoints") "",
          .invalid (FieldPath.field "walletPasswordSecret") (.text "")
            "must provide walletPasswordSecret if client is prysm"] ∧
      ¬ barePeer.CompleteAfter bareValidator := by
  refine ⟨by decide, by decide, ?_⟩
  rintro ⟨changes, hreport, -⟩
  -- two problems do not fit into a report of one
  have hlength : (barePeer.changeProblems bareValidator).length =
      bareValidator.problems.length + changes.length := by
    rw [hreport, List.length_append]
  have hreported : (barePeer.changeProblems bareValidator).length = 1 := by decide
  have hproblems : bareValidator.problems.length = 2 := by decide
  omega

end Manifest

end Nodewright
