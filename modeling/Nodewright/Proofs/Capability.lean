import Nodewright.Capability

/-!
# What registries say about clients

A registry is read in two ways: `Registry.supports` asks for one client, and `Registry.supporting`
lists all clients that have a feature. In a registry that lists each client once the two agree, so
a rule on a feature is a rule on the clients of a list.

## Key results

- `supports_iff_mem_supporting`: a client has a feature iff it is among those that have it
- `supporting_sublist`, `nodup_supporting`: how the clients that have a feature are listed
- `loggingRule_getD`: a usual level of logging that the client knows breaks no rule
- `loggingRule_eq_nil_iff`: when the rule on the level of logging is kept
-/

namespace Nodewright.Registry

variable {α : Type} [DecidableEq α] {r : Registry α} {client : α}

/-- In a list that has each client once, the entry of a client is the one that is found. -/
private theorem find?_entry {entries : List (α × List Feature)} {features : List Feature}
    (h : (entries.map (·.1)).Nodup) (hmem : (client, features) ∈ entries) :
    entries.find? (fun e => e.1 = client) = some (client, features) := by
  -- another entry in front is not the one that is looked for, since its client would come twice
  induction entries with
  | nil => exact nomatch hmem
  | cons entry rest ih =>
    obtain ⟨hnew, hrest⟩ := List.nodup_cons.1 h
    rcases List.mem_cons.1 hmem with rfl | hmem
    · exact List.find?_cons_of_pos (by simp)
    · have hne : ¬ entry.1 = client := fun heq =>
        hnew (List.mem_map.2 ⟨(client, features), hmem, heq.symm⟩)
      rw [List.find?_cons_of_neg (by simpa using hne)]
      exact ih hrest hmem

/-- In a registry that lists each client once, the clients that have a feature are those in the
    list of the feature. -/
theorem supports_iff_mem_supporting (h : (r.entries.map (·.1)).Nodup) (feature : Feature) :
    r.supports client feature = true ↔ client ∈ r.supporting feature := by
  simp only [supports, supporting, List.mem_map, List.mem_filter]
  constructor
  -- what is found is an entry of the registry
  · intro hs
    split at hs
    · next e features hfind =>
      have hclient : e = client := by simpa using List.find?_some hfind
      exact ⟨(e, features), ⟨List.mem_of_find?_eq_some hfind, hs⟩, hclient⟩
    · exact nomatch hs
  · rintro ⟨⟨e, features⟩, ⟨hmem, hs⟩, rfl⟩
    rw [find?_entry h hmem]
    exact hs

omit [DecidableEq α] in
/-- The clients that have a feature stand in the order of the registry. -/
theorem supporting_sublist (r : Registry α) (feature : Feature) :
    (r.supporting feature).Sublist (r.entries.map (·.1)) :=
  List.filter_sublist.map _

omit [DecidableEq α] in
/-- In a registry that lists each client once, each client that has a feature stands once. -/
theorem nodup_supporting (h : (r.entries.map (·.1)).Nodup) (feature : Feature) :
    (r.supporting feature).Nodup :=
  h.sublist (r.supporting_sublist feature)

/-! ## The rule on the level of logging -/

variable [Named α]

/-- A level of logging that the client knows makes no difference to the rule on it. -/
theorem loggingRule_getD {usual : Verbosity} (h : r.supports client (.logging usual) = true)
    (level : Option Verbosity) (field : FieldPath) :
    r.loggingRule client (some (level.getD usual)) field = r.loggingRule client level field := by
  cases level with
  | none => simp [loggingRule, h]
  | some level => rfl

/-- The rule on the level of logging is kept iff the client knows the level that is given. -/
theorem loggingRule_eq_nil_iff {level : Option Verbosity} {field : FieldPath} :
    r.loggingRule client level field = [] ↔
      ∀ l, level = some l → r.supports client (.logging l) = true := by
  cases level <;> simp [loggingRule]

end Nodewright.Registry
