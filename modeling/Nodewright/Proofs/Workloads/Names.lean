import Mathlib.Data.List.Nodup
import Mathlib.Data.List.Pairwise
import Nodewright.Proofs.Admission.History
import Nodewright.Proofs.Execution.Admissible

/-!
# Names of workloads

The workload of a node of a network is named after the network and the node, with a dash in between;
every other workload has the name of its manifest. The nodes of one network have distinct names, but
nothing keeps the dash out of a name, so two manifests with distinct names may still have workloads
of one name: a network `a` with a node `b-c`, and a network `a-b` with a node `c`.

## Key results

- `Manifest.Clashes`: when a node of a network is named like a workload of another manifest
- `Manifest.exists_name_iff_clashes`: workloads of two manifests have a name in common only then
- `Manifest.nodup_names`: the workloads of one manifest have distinct names
- `Admitted.nodup_names_iff`: names are distinct over any number of manifests iff none clash
-/

namespace Nodewright

/-! ## Texts with a common beginning -/

/-- Of two beginnings of a text one begins the other. -/
private theorem exists_of_append_eq_append {s t u v : String} (h : s ++ t = u ++ v) :
    (∃ r, u = s ++ r ∧ t = r ++ v) ∨ ∃ r, s = u ++ r ∧ v = r ++ t := by
  have hlist : s.toList ++ t.toList = u.toList ++ v.toList := by
    rw [← String.toList_append, h, String.toList_append]
  -- equations between texts are those between their characters
  have hback {x y : String} {r : List Char} (h : x.toList = y.toList ++ r) :
      x = y ++ String.ofList r := by
    rw [← String.toList_inj, h, String.toList_append, String.toList_ofList]
  have hfront {x y : String} {r : List Char} (h : x.toList = r ++ y.toList) :
      x = String.ofList r ++ y := by
    rw [← String.toList_inj, h, String.toList_append, String.toList_ofList]
  rcases List.append_eq_append_iff.1 hlist with ⟨r, hu, ht⟩ | ⟨r, hs, hv⟩
  · exact .inl ⟨String.ofList r, hback hu, hfront ht⟩
  · exact .inr ⟨String.ofList r, hback hs, hfront hv⟩

/-- A text that is not empty starts with a dash if it begins one that does. -/
private theorem exists_of_dash_append_eq {s r t : String} (h : "-" ++ s = r ++ t) (hr : r ≠ "") :
    ∃ rest, r = "-" ++ rest ∧ s = rest ++ t := by
  rcases exists_of_append_eq_append h with ⟨rest, hrest, hs⟩ | ⟨rest, hdash, ht⟩
  · exact ⟨rest, hrest, hs⟩
  · -- no more than the dash itself is left to begin it
    have hlist : r.toList ++ rest.toList = ['-'] := by
      rw [← String.toList_append, ← hdash]
      rfl
    rcases List.append_eq_singleton_iff.1 hlist with ⟨hnil, -⟩ | ⟨hsame, hnil⟩
    · exact absurd (String.toList_eq_nil_iff.1 hnil) hr
    · obtain rfl := String.toList_eq_nil_iff.1 hnil
      have hr' : r = "-" := String.toList_inj.1 hsame
      exact ⟨"", hr', by rw [ht]; simp⟩

/-! ## What names are made of -/

/-- The label that tells the workloads of a kind apart. -/
def Workload.instanceLabel : String := "app.kubernetes.io/instance"

/-- A workload is labelled with its name. -/
theorem Workload.get?_instanceLabel_ofLaunch (name : String) (kind : Kind) (client role : String)
    (launch : Launch) (resources : Resources) :
    (ofLaunch name kind client role launch resources).labels.get? instanceLabel = some name := by
  have hlabels : (ofLaunch name kind client role launch resources).labels =
      labelsOf name kind client role := rfl
  rw [hlabels, labelsOf, Keyed.ofEntries, Keyed.get?_insertAll]
  simp [lookupEntry, instanceLabel]

/-- What the names of the workloads of a spec have behind the name of the manifest. -/
def Spec.nameEnds : Spec → List String
  | network s => s.nodes.map fun n => "-" ++ n.name
  | _ => [""]

/-- Only names of nodes of networks have something behind the name of the manifest. -/
theorem Spec.eq_of_mem_nameEnds {s : Spec} {suffix : String} (h : suffix ∈ s.nameEnds) :
    suffix = "" ∨ ∃ net node, s = .network net ∧ node ∈ net.nodes ∧ suffix = "-" ++ node.name := by
  cases s with
  | network net =>
    obtain ⟨node, hnode, rfl⟩ := List.mem_map.1 h
    exact .inr ⟨net, node, rfl, hnode, rfl⟩
  | _ => exact .inl (List.mem_singleton.1 h)

/-- A node of the network `m` is named like a workload of `n`: the name of `n` goes on behind that
    of `m` with a dash, and the name of the node takes up what comes next. -/
def Manifest.Clashes (m n : Manifest) : Prop :=
  ∃ s rest, m.spec = .network s ∧ n.name = m.name ++ "-" ++ rest ∧
    ∃ node ∈ s.nodes, ∃ nameEnd ∈ n.spec.nameEnds, node.name = rest ++ nameEnd

namespace Manifest

variable {m n : Manifest}

/-- Names of workloads start with the name of the manifest. -/
theorem map_name_workloads (m : Manifest) :
    m.workloads.map Workload.name = m.spec.nameEnds.map (m.name ++ ·) := by
  obtain ⟨name, spec⟩ := m
  cases spec with
  | network s =>
    have hname (node : Execution.Node) :
        (node.workload name s.chain).name = name ++ ("-" ++ node.name) :=
      String.append_assoc
    simp only [workloads, Spec.workloads, Execution.Network.workloads, Spec.nameEnds,
      List.map_map, Function.comp_def, hname]
  | _ => exact congrArg (fun s => [s]) String.append_empty.symm

/-- Every workload is labelled with its name. -/
theorem get?_instanceLabel_of_mem_workloads {w : Workload} (h : w ∈ m.workloads) :
    w.labels.get? Workload.instanceLabel = some w.name := by
  obtain ⟨name, spec⟩ := m
  cases spec with
  | network s =>
    obtain ⟨node, -, rfl⟩ := List.mem_map.1 h
    exact Workload.get?_instanceLabel_ofLaunch _ _ _ _ _ _
  | _ =>
    obtain rfl := List.mem_singleton.1 h
    exact Workload.get?_instanceLabel_ofLaunch _ _ _ _ _ _

/-- A manifest that clashes has another name. -/
theorem Clashes.name_ne (h : m.Clashes n) : m.name ≠ n.name := by
  obtain ⟨s, rest, -, hname, -⟩ := h
  intro heq
  -- the name that goes on is longer by the dash at least
  have hlength : m.name.length = m.name.length + 1 + rest.length := by
    have h := congrArg String.length (heq.trans hname)
    rwa [String.length_append, String.length_append] at h
  omega

/-- If a name of a workload of `m` goes on beyond the name of `n`, the two clash. -/
theorem clashes_of_nameEnd {r suffix suffix' : String} (hne : m.name ≠ n.name)
    (hname : n.name = m.name ++ r) (h : suffix ∈ m.spec.nameEnds) (h' : suffix' ∈ n.spec.nameEnds)
    (heq : suffix = r ++ suffix') : m.Clashes n := by
  have hr : r ≠ "" := by
    rintro rfl
    exact hne (by rw [hname, String.append_empty])
  rcases Spec.eq_of_mem_nameEnds h with rfl | ⟨s, node, hspec, hnode, rfl⟩
  · -- without a dash nothing can go on
    have hempty : r = "" := (String.append_eq_empty_iff.1 heq.symm).1
    exact absurd hempty hr
  · obtain ⟨rest, rfl, hrest⟩ := exists_of_dash_append_eq heq hr
    refine ⟨s, rest, hspec, ?_, node, hnode, suffix', h', hrest⟩
    rw [hname, String.append_assoc]

/-- Workloads of two manifests have a name in common iff one of the manifests clashes with the
    other. -/
theorem exists_name_iff_clashes (hne : m.name ≠ n.name) :
    (∃ x ∈ m.workloads.map Workload.name, x ∈ n.workloads.map Workload.name) ↔
      m.Clashes n ∨ n.Clashes m := by
  -- a clash is a name in common, whichever of the two the network is
  have hof {m n : Manifest} (h : m.Clashes n) :
      ∃ x ∈ m.workloads.map Workload.name, x ∈ n.workloads.map Workload.name := by
    obtain ⟨s, rest, hspec, hname, node, hnode, suffix, hsuffix, heq⟩ := h
    rw [map_name_workloads, map_name_workloads]
    refine ⟨n.name ++ suffix, List.mem_map.2 ⟨"-" ++ node.name, ?_, ?_⟩,
      List.mem_map.2 ⟨suffix, hsuffix, rfl⟩⟩
    · rw [hspec]
      exact List.mem_map.2 ⟨node, hnode, rfl⟩
    · simp only [hname, heq, String.append_assoc]
  constructor
  · rintro ⟨x, hm, hn⟩
    rw [map_name_workloads] at hm hn
    obtain ⟨suffix, hsuffix, rfl⟩ := List.mem_map.1 hm
    obtain ⟨suffix', hsuffix', heq⟩ := List.mem_map.1 hn
    -- one of the names of the manifests begins the other
    rcases exists_of_append_eq_append heq with ⟨r, hname, hrest⟩ | ⟨r, hname, hrest⟩
    · exact .inr (clashes_of_nameEnd hne.symm hname hsuffix' hsuffix hrest)
    · exact .inl (clashes_of_nameEnd hne hname hsuffix hsuffix' hrest)
  · rintro (h | h)
    · exact hof h
    · obtain ⟨x, hn, hm⟩ := hof h
      exact ⟨x, hm, hn⟩

/-- The workloads of one manifest without problems have distinct names. -/
theorem nodup_names (h : m.problems = []) : (m.workloads.map Workload.name).Nodup := by
  have happend : Function.Injective (m.name ++ ·) := fun _ _ =>
    (String.append_right_inj m.name).1
  rw [map_name_workloads]
  refine List.Nodup.map happend ?_
  obtain ⟨name, spec⟩ := m
  cases spec with
  | network s =>
    -- the names of the nodes are distinct by a rule
    have hunique : s.uniqueNames = [] := by
      have hs : s.problems = [] := h
      simp only [Execution.Network.problems, List.append_eq_nil_iff] at hs
      exact hs.1.2
    have hnames := Execution.Network.uniqueNames_eq_nil_iff.1 hunique
    have hdash : Function.Injective ("-" ++ ·) := fun _ _ => (String.append_right_inj "-").1
    have hnodup := hnames.map hdash
    rwa [List.map_map] at hnodup
  | _ => exact List.nodup_singleton ""

end Manifest

namespace Admitted

variable {admitted : List Admitted}

/-- What has been admitted has no problems, and its workloads are those of its manifest. -/
theorem workloads_eq_of_admission {images : Image.Overrides} {old : Option Manifest} {m : Manifest}
    {a : Admitted} (h : m.admission images old = .ok a) :
    a.manifest.problems = [] ∧ a.workloads = a.manifest.workloads := by
  obtain ⟨hfill, hproblems⟩ := Manifest.problems_eq_nil_of_admission h
  obtain ⟨-, rfl⟩ := Manifest.admission_eq_ok_iff.1 h
  exact ⟨hproblems, rfl⟩

/-- Over manifests with distinct names the names of workloads are distinct iff no two of the
    manifests clash. -/
theorem nodup_names_iff
    (hadmitted : ∀ a ∈ admitted, ∃ images old m, Manifest.admission images old m = .ok a)
    (hnames : (admitted.map fun a => a.manifest.name).Nodup) :
    ((admitted.flatMap workloads).map Workload.name).Nodup ↔
      ∀ a ∈ admitted, ∀ b ∈ admitted, ¬ a.manifest.Clashes b.manifest := by
  have hworkloads (a : Admitted) (ha : a ∈ admitted) :
      a.manifest.problems = [] ∧ a.workloads = a.manifest.workloads := by
    obtain ⟨images, old, m, h⟩ := hadmitted a ha
    exact workloads_eq_of_admission h
  have hdiffer : admitted.Pairwise fun a b => a.manifest.name ≠ b.manifest.name :=
    List.pairwise_map.1 hnames
  rw [List.map_flatMap, List.nodup_flatMap]
  constructor
  -- manifests that clash have a name in common, and they are not the same one
  · rintro ⟨-, hdisjoint⟩ a ha b hb hclash
    have hne := hclash.name_ne
    obtain ⟨x, hxa, hxb⟩ := (Manifest.exists_name_iff_clashes hne).2 (.inl hclash)
    have hab : a ≠ b := fun heq => hne (congrArg (fun a => a.manifest.name) heq)
    have : Std.Symm (Function.onFun List.Disjoint fun a : Admitted =>
        a.workloads.map Workload.name) :=
      ⟨fun _ _ h _ hx hy => h hy hx⟩
    have hnone := hdisjoint.forall ha hb hab
    rw [← (hworkloads a ha).2] at hxa
    rw [← (hworkloads b hb).2] at hxb
    exact hnone hxa hxb
  · intro hclash
    refine ⟨fun a ha => ?_, ?_⟩
    · obtain ⟨hproblems, heq⟩ := hworkloads a ha
      rw [heq]
      exact Manifest.nodup_names hproblems
    -- a name in common would be a clash, in one direction or the other
    · refine hdiffer.imp_of_mem fun {a b} ha hb hne => ?_
      intro x hxa hxb
      simp only [(hworkloads a ha).2] at hxa
      simp only [(hworkloads b hb).2] at hxb
      rcases (Manifest.exists_name_iff_clashes hne).1 ⟨x, hxa, hxb⟩ with h | h
      · exact hclash a ha b hb h
      · exact hclash b hb a ha h

/-- Over admitted manifests with distinct names every workload has its name as its label, and two
    workloads have one name iff the manifests clash: a node of a network is named like a workload of
    a manifest whose own name goes on with a dash behind that of the network. -/
theorem names_distinguish
    (hadmitted : ∀ a ∈ admitted, ∃ images old m, Manifest.admission images old m = .ok a)
    (hnames : (admitted.map fun a => a.manifest.name).Nodup) :
    (∀ w ∈ admitted.flatMap workloads,
      w.labels.get? Workload.instanceLabel = some w.name) ∧
    (((admitted.flatMap workloads).map Workload.name).Nodup ↔
      ∀ a ∈ admitted, ∀ b ∈ admitted, ¬ a.manifest.Clashes b.manifest) := by
  refine ⟨fun w hw => ?_, nodup_names_iff hadmitted hnames⟩
  obtain ⟨a, ha, hw⟩ := List.mem_flatMap.1 hw
  obtain ⟨images, old, m, h⟩ := hadmitted a ha
  rw [(workloads_eq_of_admission h).2] at hw
  exact Manifest.get?_instanceLabel_of_mem_workloads hw

/-- A network of the given name, with one node of the given name. -/
def withNode (network node : String) : Manifest :=
  { History.sample [node] "100Gi" with name := network }

/-- What is admitted of a network with one node. -/
def ofNode (network node : String) : Admitted :=
  ⟨(withNode network node).fill .none, ((withNode network node).fill .none).workloads⟩

/-- Both networks are admitted. -/
theorem admission_withNode :
    (withNode "a" "b-c").admission .none none = .ok (ofNode "a" "b-c") ∧
      (withNode "a-b" "c").admission .none none = .ok (ofNode "a-b" "c") :=
  ⟨Manifest.admission_eq_ok_iff.2 ⟨by decide +kernel, rfl⟩,
    Manifest.admission_eq_ok_iff.2 ⟨by decide +kernel, rfl⟩⟩

/-- Two networks with distinct names that are both admitted, with nodes of one name. -/
theorem exists_name_eq :
    (∃ images old m, Manifest.admission images old m = .ok (ofNode "a" "b-c")) ∧
      (∃ images old m, Manifest.admission images old m = .ok (ofNode "a-b" "c")) ∧
      (ofNode "a" "b-c").manifest.name ≠ (ofNode "a-b" "c").manifest.name ∧
      ∃ w ∈ (ofNode "a" "b-c").workloads, ∃ w' ∈ (ofNode "a-b" "c").workloads,
        w.name = w'.name := by
  refine ⟨⟨_, _, _, admission_withNode.1⟩, ⟨_, _, _, admission_withNode.2⟩, by decide, ?_⟩
  exact ⟨_, List.mem_singleton_self _, _, List.mem_singleton_self _, by decide⟩

/-- These networks clash. -/
theorem names_distinguish_ofNode :
    ∃ a ∈ [ofNode "a" "b-c", ofNode "a-b" "c"], ∃ b ∈ [ofNode "a" "b-c", ofNode "a-b" "c"],
      a.manifest.Clashes b.manifest := by
  have hadmitted : ∀ a ∈ [ofNode "a" "b-c", ofNode "a-b" "c"],
      ∃ images old m, Manifest.admission images old m = .ok a := by
    intro a ha
    rcases List.mem_pair.1 ha with rfl | rfl
    · exact ⟨_, _, _, admission_withNode.1⟩
    · exact ⟨_, _, _, admission_withNode.2⟩
  have hiff := (names_distinguish hadmitted (by decide)).2
  refine Classical.byContradiction fun hnone => ?_
  have hnodup := hiff.2 fun a ha b hb h => hnone ⟨a, ha, b, hb, h⟩
  exact absurd hnodup (by decide)

end Admitted

end Nodewright
