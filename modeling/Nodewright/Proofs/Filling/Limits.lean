import Nodewright.Proofs.Filling.Problems

/-!
# Limits and the requests that are put in

Where both a limit and its request are left out, or only the limit is, what filling puts in fits
together. Where a limit is given without its request, the request of the profile is put in whatever
the limit says, and may be above it.

## Key results

- `Resources.SuitedBy`: the requests of a profile are not above limits given without a request
- `Resources.valid_fill_iff`: resources without problems stay so exactly if the profile suits them
- `Resources.not_forall_valid_fill`: for some it does not
-/

namespace Nodewright

namespace Resources

variable {p : ResourceProfile} {r : Resources} {path : FieldPath}

/-- No limit that is given without its request is below the request of a profile. -/
structure SuitedBy (r : Resources) (p : ResourceProfile) : Prop where
  cpu : r.cpu = .none → ∀ l, r.cpuLimit = some l → Quantity.isLess l p.cpu = false
  memory : r.memory = .none → ∀ l, r.memoryLimit = some l → Quantity.isLess l p.memory = false

/-- Only limits whose requests are left out depend on the profile. -/
theorem forall_isLess_getD_iff {field : FieldPath} {name usual : String}
    {request limit : Option String} (h : limitRule field name request limit = []) :
    (∀ l, limit = some l → Quantity.isLess l (request.getD usual) = false) ↔
      (request = .none → ∀ l, limit = some l → Quantity.isLess l usual = false) := by
  cases request with
  | none => simp
  | some q =>
    -- a limit beside its own request is compared with that, and it is in order
    have hgiven : ∀ l, limit = some l → Quantity.isLess l q = false := by
      simpa [limitRule] using h
    refine ⟨fun _ hnone => ?_, fun _ => hgiven⟩
    cases hnone

/-- Resources without problems can be filled from a profile exactly if it suits them. -/
theorem sound_iff_suitedBy (h : r.problems path = []) : r.Sound p ↔ r.SuitedBy p := by
  simp only [problems, List.append_eq_nil_iff, quantityRule_eq_nil_iff] at h
  obtain ⟨⟨⟨⟨⟨⟨hcpu, hcpuLimit⟩, hmemory⟩, hmemoryLimit⟩, hstorage⟩, hcpu_le⟩, hmemory_le⟩ := h
  constructor
  · intro hsound
    exact ⟨(forall_isLess_getD_iff hcpu_le).1 hsound.cpu_le,
      (forall_isLess_getD_iff hmemory_le).1 hsound.memory_le⟩
  · intro hsuited
    exact ⟨hcpu, hcpuLimit, hmemory, hmemoryLimit, hstorage,
      (forall_isLess_getD_iff hcpu_le).2 hsuited.cpu,
      (forall_isLess_getD_iff hmemory_le).2 hsuited.memory⟩

/-- Filling keeps resources without problems as they are exactly if no limit that was given without
    its request is below the request that the kind asks for. All that it may break is the rule on
    such a limit. -/
theorem valid_fill_iff (kind : Kind) (h : r.problems path = []) :
    ((r.fill kind.profile).problems path = [] ↔ r.SuitedBy kind.profile) ∧
      ∀ v ∈ (r.fill kind.profile).problems path, BelowUsual kind.profile r path v := by
  have hreadable := kind.profile_readable
  -- what is left over of the report on the filled resources comes from the profile
  refine ⟨(problems_fill_eq_nil_iff hreadable).trans (sound_iff_suitedBy h), fun v hv => ?_⟩
  exact (problems_fill hreadable r path).other v hv (h ▸ List.not_mem_nil)

/-- Resources with nothing but a limit on computing time. -/
def withCpuLimit (limit : String) : Resources := { none with cpuLimit := some limit }

/-- A peer asks for one core, which a limit of two cores suits. -/
theorem valid_fill_iff_withCpuLimit :
    (withCpuLimit "2").problems (.field "resources") = [] ∧
      (withCpuLimit "2").SuitedBy Kind.peer.profile ∧
      ((withCpuLimit "2").fill Kind.peer.profile).problems (.field "resources") = [] := by
  have hvalid : (withCpuLimit "2").problems (.field "resources") = [] := by decide +kernel
  have hsuited : (withCpuLimit "2").SuitedBy Kind.peer.profile := by
    refine ⟨fun _ l hl => ?_, nofun⟩
    obtain rfl := Option.some.inj hl
    decide +kernel
  exact ⟨hvalid, hsuited, (valid_fill_iff .peer hvalid).1.2 hsuited⟩

/-- A limit of half a core has no problem by itself, and is below the one core that is put in. -/
theorem not_forall_valid_fill :
    ¬ ∀ (kind : Kind) (r : Resources) (path : FieldPath),
      r.problems path = [] → (r.fill kind.profile).problems path = [] := by
  intro hall
  have hvalid : (withCpuLimit "500m").problems (.field "resources") = [] := by decide +kernel
  have hfilled : ((withCpuLimit "500m").fill Kind.peer.profile).problems (.field "resources") =
      [.invalid ((FieldPath.field "resources").child "cpuLimit") (.text "500m")
        "must be greater than or equal to cpu 1"] := by decide +kernel
  have hnone := hall .peer _ _ hvalid
  rw [hfilled] at hnone
  exact nomatch hnone

end Resources

end Nodewright
