import Nodewright.Proofs.Admission.Completeness
import Nodewright.Proofs.Admission.Demands
import Nodewright.Proofs.Report.Distinct

/-!
# No problem is reported twice

A violation is reported with the text of its place. No two violations of a report read the same,
neither for a manifest by itself nor for one that takes the place of an older one. For a manifest by
itself, no two are at the same place, except at the consensus rule of a network and at the client of
a node, where they have different details.

A problem of the new manifest is never reported again as a change: changes have details of their
own, which is all that tells them apart where both are at the same place.

## Key results

- `Violation.eq_of_entry_eq`: a violation at a place in the spec is known from what is reported
- `Spec.isCrowded_of_text_eq`: problems at the same place are at a crowded one
- `Manifest.changeProblems_nodup`: a report on a change has nothing twice
- `Manifest.reported_once`: no problem is reported twice
-/

namespace Nodewright

open FieldPath (field)

/-! ## What is reported of a violation -/

namespace Violation

/-- A violation as it is reported, with the text of its place. -/
def entry (v : Violation) : Violation.Sort × String × Violation.Value × String :=
  (v.sort, v.field.text, v.value, v.detail)

variable {v w : Violation}

/-- A violation is known from what is reported, where its place is known from its text. -/
theorem eq_of_entry_eq (hv : v.field.InSpec) (hw : w.field.InSpec) (h : v.entry = w.entry) :
    v = w := by
  obtain ⟨sort, place, value, detail⟩ := v
  obtain ⟨sort', place', value', detail'⟩ := w
  obtain ⟨rfl, htext, rfl, rfl⟩ : sort = sort' ∧ place.text = place'.text ∧ value = value' ∧
      detail = detail' := by
    simpa only [entry, Prod.mk.injEq] using h
  obtain rfl := FieldPath.eq_of_text_eq hv.2 hw.2 htext
  rfl

/-- Violations at the same place with different slots have different details. -/
theorem detail_ne_of_slot_ne (hfield : v.field = w.field) (h : v.slot ≠ w.slot) :
    v.slot.2.isSome ∧ v.detail ≠ w.detail := by
  by_cases hcrowded : v.field.steps.getLast?.any FieldPath.Step.isCrowded
  · refine ⟨by simp [slot, hcrowded], fun hdetail => h ?_⟩
    rw [slot, slot, hfield, hdetail]
  · -- elsewhere the slot is the place
    have hslot : v.slot = (v.field, none) := by simp [slot, hcrowded]
    have hslot' : w.slot = (w.field, none) := by simp [slot, ← hfield, hcrowded]
    exact absurd (by rw [hslot, hslot', hfield]) h

end Violation

/-- What is reported differs where the violations do, if their places can be told apart. -/
theorem Report.nodup_map_entry {r : Report} (hplaces : ∀ v ∈ r, v.field.InSpec) (h : r.Nodup) :
    (r.map Violation.entry).Nodup :=
  h.map_on fun v hv w hw => Violation.eq_of_entry_eq (hplaces v hv) (hplaces w hw)

/-- How a crowded place reads. -/
theorem FieldPath.IsCrowded.text_eq {p : FieldPath} (h : p.IsCrowded) :
    p.text = "spec.consensus" ∨
      ∃ i : Nat, p.text = "spec.nodes[" ++ toString i ++ "].client" := by
  rcases h with rfl | ⟨i, rfl⟩
  · exact .inl (by decide)
  · refine .inr ⟨i, ?_⟩
    rw [← String.toList_inj, toList_text]
    simp [Execution.nodeField, field, child, index, step, spec, ofRoot, stepChars, Step.text]

/-! ## Demands -/

/-- Demands are made at places that are known from their texts. -/
theorem Kind.inSpec_place (kind : Kind) (shared : Nat) :
    ∀ place ∈ (kind.demands shared).map Demand.place, place.InSpec := by
  -- resources, nodes and fields of the spec are the three sorts of places
  have hresources {path : FieldPath} (hpath : path.InSpec) :
      ∀ place ∈ (Resources.demands path).map Demand.place, place.InSpec :=
    List.forall_mem_cons.2 ⟨hpath.step (by decide),
      List.forall_mem_singleton.2 (hpath.step (by decide))⟩
  have hnodes : ∀ place ∈ (Execution.Network.nodeDemands shared).map Demand.place,
      place.InSpec := by
    intro place hplace
    rw [Execution.Network.nodeDemands, List.map_append, List.map_map, List.map_flatMap] at hplace
    rcases List.mem_append.1 hplace with hplace | hplace
    · obtain ⟨i, -, rfl⟩ := List.mem_map.1 hplace
      exact (Execution.inSpec_nodeField i).step (by decide)
    · obtain ⟨i, -, hplace⟩ := List.mem_flatMap.1 hplace
      exact hresources ((Execution.inSpec_nodeField i).step (by decide)) place hplace
  have hfixed : ∀ name ∈ kind.fixed, (field name).InSpec := by
    cases kind <;> decide
  rw [demands, List.map_append, List.map_map]
  refine List.forall_mem_append.2 ⟨List.forall_mem_map.2 hfixed, ?_⟩
  split
  · exact hnodes
  · exact hresources (by decide)

/-- Broken demands are at different places, which are known from their texts. -/
theorem Kind.breaches_distinct (kind : Kind) (shared : Nat) (old new : Json) :
    let breaches := (kind.demands shared).flatMap (Demand.report old new)
    (∀ v ∈ breaches, v.field.InSpec ∧ v.IsTransition) ∧ breaches.Nodup := by
  refine ⟨fun v hv => ?_, ?_⟩
  · obtain ⟨d, hd, hv⟩ := List.mem_flatMap.1 hv
    have hfield : v.field ∈ [d.place] :=
      (Demand.map_field_report_sublist old new d).subset (List.mem_map_of_mem hv)
    rw [List.mem_singleton.1 hfield]
    exact ⟨kind.inSpec_place shared _ (List.mem_map_of_mem hd),
      Demand.isTransition_of_mem_report hv⟩
  · exact (Demand.nodup_map_field old new (kind.nodup_places shared)).of_map _

/-! ## Reports -/

namespace Spec

/-- A spec has no problem twice. -/
theorem nodup_problems (s : Spec) : s.problems.Nodup :=
  (s.within_problems.nodup s.nodup_slots).of_map _

/-- Of two problems at the same place, the place is crowded and the details differ. -/
theorem isCrowded_of_text_eq (s : Spec) :
    s.problems.Pairwise fun v w =>
      v.field.text = w.field.text → v.field.IsCrowded ∧ v.detail ≠ w.detail := by
  -- each problem has a slot of its own, so two at one place have different details
  have hslots : s.problems.Pairwise fun v w => v.slot ≠ w.slot :=
    List.pairwise_map.1 (s.within_problems.nodup s.nodup_slots)
  refine hslots.imp_of_mem ?_
  intro v w hv hw hslot htext
  have hfield : v.field = w.field :=
    FieldPath.eq_of_text_eq (inSpec_of_mem hv).2 (inSpec_of_mem hw).2 htext
  obtain ⟨hsome, hdetail⟩ := Violation.detail_ne_of_slot_ne hfield hslot
  exact ⟨isCrowded_of_mem hv hsome, hdetail⟩

end Spec

namespace Manifest

/-- A report on a change has nothing twice. -/
theorem changeProblems_nodup (old new : Manifest) :
    ((old.changeProblems new).map Violation.entry).Nodup := by
  by_cases hkind : old.kind = new.kind
  · obtain ⟨hbreaches, hnodup⟩ := new.kind.breaches_distinct (old.spec.shared new.spec)
      old.spec.encode new.spec.encode
    -- the report is that on the spec itself, and then the demands that are broken
    have hreport := Spec.changeProblems_eq hkind
    rw [changeProblems, hreport]
    refine Report.nodup_map_entry ?_ ?_
    · refine List.forall_mem_append.2 ⟨fun v hv => Spec.inSpec_of_mem hv, fun v hv => ?_⟩
      exact (hbreaches v hv).1
    · refine List.nodup_append.2 ⟨new.spec.nodup_problems, hnodup, ?_⟩
      rintro v hv _ hbreach rfl
      -- what a spec breaks by itself does not read like a change
      exact new.spec.within_problems.own v hv (hbreaches v hbreach).2
  · rw [changeProblems_of_kind_ne hkind]
    exact List.nodup_singleton _

/-- No problem is reported twice: no two violations of a report read the same, be it the report on a
    manifest by itself or on one that takes the place of an older one. In the report on a manifest
    by itself, no two are at the same place, except at the consensus rule of a network and at the
    client of a node, where their details differ. -/
theorem reported_once (m : Manifest) :
    (m.problems.map Violation.entry).Nodup ∧
      (∀ old : Manifest, ((old.changeProblems m).map Violation.entry).Nodup) ∧
      m.problems.Pairwise fun v w =>
        v.field.text = w.field.text →
          (v.field.text = "spec.consensus" ∨
            ∃ i : Nat, v.field.text = "spec.nodes[" ++ toString i ++ "].client") ∧
          v.detail ≠ w.detail := by
  refine ⟨?_, fun old => old.changeProblems_nodup m, ?_⟩
  · exact Report.nodup_map_entry (fun v hv => Spec.inSpec_of_mem hv) m.spec.nodup_problems
  · refine m.spec.isCrowded_of_text_eq.imp ?_
    intro v w h htext
    obtain ⟨hcrowded, hdetail⟩ := h htext
    exact ⟨hcrowded.text_eq, hdetail⟩

/-- A network whose first block has the parameters of two consensus rules that it does not follow,
    with a node whose client can do two things less than it is asked for. -/
def crowdedSample : Manifest where
  name := "net"
  spec := .network {
    chain := {
      id := some 1337, join := none, consensus := some .proofOfWork
      genesis := some {
        chainId := 1337, coinbase := none, difficulty := none, mixHash := none, gasLimit := none
        nonce := none, timestamp := none, accounts := [], forks := none, clique := some .empty
        ibft2 := some ⟨none, none, none, none, none, none, none, []⟩, ethash := none } }
    nodes := [
      { name := "a", client := .parity, image := none, bootnode := false, nodekeySecretName := none
        bootnodes := [], miner := false, coinbase := none, importedAccount := none
        syncMode := some .light, p2pPort := none, rpc := ⟨.off, []⟩, ws := ⟨.off, []⟩
        graphql := ⟨true, none, none⟩, hosts := [], corsDomains := [], logging := none
        resources := .none }] }

/-- Both places may be reported more than once. -/
example : crowdedSample.problems.map (fun v => (v.field.text, v.detail)) =
    [("spec.consensus", "must be poa if spec.genesis.clique is specified"),
      ("spec.consensus", "must be ibft2 if spec.genesis.ibft2 is specified"),
      ("spec.nodes[0].client", "must be geth if syncMode is light"),
      ("spec.nodes[0].client", "client doesn't support graphQL")] := by decide +kernel

end Manifest

end Nodewright
