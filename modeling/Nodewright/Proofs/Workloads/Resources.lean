import Nodewright.Proofs.Admission.History
import Nodewright.Proofs.Quantity.Grammar

/-!
# Resources of workloads

The rules on resources read quantities to compare them, and take off the white space around a
quantity before they read it. What is handed to the backend is the text itself, white space and all:
a request for `" 2 "` is a request for two cores to the rules, and reaches the backend as it is.

## Key results

- `Resources.Enforceable`: requests and limits that are complete, legible and in order
- `Resources.enforceable_of_problems_eq_nil`: filled resources without problems are
- `Spec.map_resources_workloads`: workloads ask for what stands in the spec, text by text
- `Manifest.enforceable_of_admission`: so what is handed to the backend is what was checked
-/

namespace Nodewright

/-! ## Quantities that are given -/

namespace Quantity

/-- A quantity that is given, and written with nothing but white space around it. -/
def Given (value : Option String) : Prop :=
  ∃ text q, value = some text ∧ Spells (Text.trimmed text.toList) q

/-- Two quantities that are given, the second of which is not below the first. -/
def AtMost (request limit : Option String) : Prop :=
  ∃ a b, request.bind amount? = some a ∧ limit.bind amount? = some b ∧ b.lt a = false

end Quantity

namespace Resources

/-- All requests and limits are given and can be read, and no limit is below its request. -/
structure Enforceable (r : Resources) : Prop where
  cpu : Quantity.Given r.cpu
  cpuLimit : Quantity.Given r.cpuLimit
  memory : Quantity.Given r.memory
  memoryLimit : Quantity.Given r.memoryLimit
  storage : Quantity.Given r.storage
  cpu_le : Quantity.AtMost r.cpu r.cpuLimit
  memory_le : Quantity.AtMost r.memory r.memoryLimit

variable {field : FieldPath}

/-- What the rule on quantities takes is written as one. -/
theorem given_of_quantityRule {text : String} (h : quantityRule field (some text) = []) :
    Quantity.Given (some text) := by
  have hreadable := quantityRule_eq_nil_iff.1 h text rfl
  obtain ⟨q, hq⟩ := Option.isSome_iff_exists.1 hreadable
  exact ⟨text, q, rfl, Quantity.ofText?_eq_some_iff.1 hq⟩

/-- What is written as a quantity has an amount. -/
theorem exists_amount_of_given {value : Option String} (h : Quantity.Given value) :
    ∃ a, value.bind Quantity.amount? = some a := by
  obtain ⟨text, q, rfl, hspells⟩ := h
  have hq := Quantity.ofText?_eq_some_iff.2 hspells
  exact ⟨q.amount, by rw [Option.bind_some, Quantity.amount?, hq, Option.map_some]⟩

/-- The rule on limits compares the amounts, if there are any. -/
theorem atMost_of_limitRule {name request limit : String}
    (hrequest : Quantity.Given (some request)) (hlimit : Quantity.Given (some limit))
    (h : limitRule field name (some request) (some limit) = []) :
    Quantity.AtMost (some request) (some limit) := by
  obtain ⟨a, ha⟩ := exists_amount_of_given hrequest
  obtain ⟨b, hb⟩ := exists_amount_of_given hlimit
  refine ⟨a, b, ha, hb, ?_⟩
  -- with an amount on both sides the rule is one comparison
  rw [Option.bind_some] at ha hb
  rwa [limitRule, Report.ofSome_some, Report.ofSome_some, Report.when_eq_nil, Quantity.isLess, ha,
    hb] at h

/-- Filled resources without problems are complete, and their limits are in order. -/
theorem enforceable_of_problems_eq_nil {p : ResourceProfile} {r : Resources} {path : FieldPath}
    (h : (r.fill p).problems path = []) : (r.fill p).Enforceable := by
  simp only [problems, List.append_eq_nil_iff] at h
  obtain ⟨⟨⟨⟨⟨⟨hcpu, hcpuLimit⟩, hmemory⟩, hmemoryLimit⟩, hstorage⟩, hcpu_le⟩, hmemory_le⟩ := h
  -- the five rules on quantities come first, as the comparisons need what they say
  have hcpu := given_of_quantityRule hcpu
  have hcpuLimit := given_of_quantityRule hcpuLimit
  have hmemory := given_of_quantityRule hmemory
  have hmemoryLimit := given_of_quantityRule hmemoryLimit
  exact {
    cpu := hcpu
    cpuLimit := hcpuLimit
    memory := hmemory
    memoryLimit := hmemoryLimit
    storage := given_of_quantityRule hstorage
    cpu_le := atMost_of_limitRule hcpu hcpuLimit hcpu_le
    memory_le := atMost_of_limitRule hmemory hmemoryLimit hmemory_le }

end Resources

/-! ## What the backend is asked for -/

/-- Workloads ask for what stands in the spec, each node for its own. -/
theorem Spec.map_resources_workloads (name : String) (s : Spec) :
    (s.workloads name).map Workload.resources = s.resourceBlocks.map Prod.snd := by
  cases s with
  | network s =>
    -- the numbers of the nodes tell where their resources stand, and nothing else
    have hblocks : (s.nodes.zipIdx.map Prod.fst).map Execution.Node.resources =
        s.nodes.map Execution.Node.resources := by
      rw [List.zipIdx_map_fst]
    simp only [workloads, Execution.Network.workloads, resourceBlocks, List.map_map] at hblocks ⊢
    exact hblocks.symm
  | _ => rfl

namespace Manifest

variable {images : Image.Overrides} {old : Option Manifest} {m : Manifest} {a : Admitted}

/-- What is handed to the backend is what was checked: the workloads of an admitted manifest ask for
    what stands in the filled manifest, text by text. All of it is there, each text is written as a
    quantity but for white space at its ends, and no limit is below its request. -/
theorem enforceable_of_admission (h : m.admission images old = .ok a) :
    a.workloads.map Workload.resources = a.manifest.spec.resourceBlocks.map Prod.snd ∧
      ∀ w ∈ a.workloads, w.resources.Enforceable := by
  obtain ⟨-, hproblems⟩ := problems_eq_nil_of_admission h
  obtain ⟨-, rfl⟩ := admission_eq_ok_iff.1 h
  have hresources := Spec.map_resources_workloads m.name (m.spec.fill images)
  refine ⟨hresources, fun w hw => ?_⟩
  -- each workload has the resources of one place in the spec, and they were checked there
  have hmem : w.resources ∈ (m.spec.fill images).resourceBlocks.map Prod.snd := by
    rw [← hresources]
    exact List.mem_map.2 ⟨w, hw, rfl⟩
  obtain ⟨⟨path, r⟩, hblock, hr⟩ := List.mem_map.1 hmem
  obtain ⟨⟨given, rfl⟩, hnone⟩ := Spec.resources_of_problems_eq_nil hproblems hblock
  rw [← hr]
  exact Resources.enforceable_of_problems_eq_nil hnone

/-- A peer that asks for so much computing time, and for nothing else. -/
def withCpu (cpu : String) : Manifest where
  name := "p"
  spec := .peer
    { client := .goIpfs, image := none, initProfiles := [], profiles := [], apiHost := none
      apiPort := none, gatewayHost := none, gatewayPort := none, routing := none
      swarmKeySecretName := none, logging := none
      resources := ⟨some cpu, none, none, none, none, none⟩ }

/-- A peer that asks for two cores, with white space around them. -/
theorem enforceable_of_admission_withCpu :
    ∃ a, (withCpu " 2 ").admission .none none = .ok a ∧
      ∃ w ∈ a.workloads, w.resources.cpu = some " 2 " ∧ w.resources.Enforceable := by
  have hadmission : (withCpu " 2 ").admission .none none = .ok _ :=
    admission_eq_ok_iff.2 ⟨by decide +kernel, rfl⟩
  have hworkloads := (enforceable_of_admission hadmission).2
  exact ⟨_, hadmission, _, List.mem_singleton_self _, rfl,
    hworkloads _ (List.mem_singleton_self _)⟩

/-- The white space is handed to the backend, and the text with it is no quantity. -/
theorem exists_cpu_not_spelled :
    ∃ a, (withCpu " 2 ").admission .none none = .ok a ∧
      ∃ w ∈ a.workloads, w.resources.cpu = some " 2 " ∧ ¬ ∃ q, Quantity.Spells " 2 ".toList q := by
  refine ⟨_, admission_eq_ok_iff.2 ⟨by decide +kernel, rfl⟩, _, List.mem_singleton_self _, rfl, ?_⟩
  rintro ⟨q, hq⟩
  have hread : (Quantity.ofChars? " 2 ".toList).isSome = true := by
    rw [Quantity.ofChars?_of_spells hq]
    rfl
  exact absurd hread (by decide)

end Manifest

end Nodewright
