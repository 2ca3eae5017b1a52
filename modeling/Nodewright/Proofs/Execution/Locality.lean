import Mathlib.Logic.Equiv.Defs
import Nodewright.Proofs.Report.Relative

/-!
# Every node answers for itself

The report on a network names nodes by their numbers, in texts. What a report says at the number of
a node, other than of its name and of its being a boot node, is what the rules on nodes find wrong
with that node: the node at that place and its chain are all that matters, and neither the other
nodes nor the number itself. A node that stands elsewhere is reported in the same words there.

## Key results

- `Violation.isOfNode`: whether a text speaks of a node by itself
- `Node.relative_problems`: the rules on a node do not ask for its number
- `Network.problemsOf_eq`: the part of a report on one node is made by the rules on that node
- `Network.problems_local`: reports speak of nodes in order, and of each as if it were alone
-/

namespace Nodewright

open Report (Relative)

/-- Whether the text of the place of a violation starts with that of a place. -/
def Violation.isBelow (p : FieldPath) (v : Violation) : Bool :=
  p.text.toList.isPrefixOf v.field.text.toList

/-- Whether a violation is at a node, and neither of its name nor of its being a boot node, which
    are looked at together with the other nodes. -/
def Violation.isOfNode (i : Nat) (v : Violation) : Bool :=
  v.isBelow (Execution.nodeField i) &&
    v.field.text != ((Execution.nodeField i).child "name").text &&
    v.field.text != ((Execution.nodeField i).child "bootnode").text

/-- Of items that are gone through with their numbers, a test that tells the numbers apart keeps
    what is found at one of them. -/
theorem filter_flatMap_zipIdx {α β : Type} {items : List α} {f : α × Nat → List β} {p : β → Bool}
    {a : α} {i : Nat} (ha : items[i]? = some a)
    (h : ∀ b k, ∀ x ∈ f (b, k), p x = decide (k = i)) :
    (items.zipIdx.flatMap f).filter p = f (a, i) := by
  obtain ⟨hi, rfl⟩ := List.getElem?_eq_some_iff.1 ha
  have hlength : (items.take i).length = i := List.length_take_of_le (Nat.le_of_lt hi)
  have hnone {part : List (α × Nat)} (hpart : ∀ e ∈ part, e.2 ≠ i) :
      (part.flatMap f).filter p = [] := by
    refine List.filter_eq_nil_iff.2 fun x hx => ?_
    obtain ⟨e, he, hx⟩ := List.mem_flatMap.1 hx
    rw [h e.1 e.2 x hx, decide_eq_false (hpart e he)]
    exact Bool.false_ne_true
  have hall : (f (items[i], i)).filter p = f (items[i], i) :=
    List.filter_eq_self.2 fun x hx => (h _ _ x hx).trans (decide_eq_true rfl)
  -- the items in front have smaller numbers, and those behind larger ones
  have hsplit : items = items.take i ++ items[i] :: items.drop (i + 1) := by
    rw [← List.drop_eq_getElem_cons hi, List.take_append_drop]
  conv_lhs => rw [hsplit, List.zipIdx_append, List.zipIdx_cons, hlength, Nat.zero_add]
  rw [List.flatMap_append, List.flatMap_cons, List.filter_append, List.filter_append, hall,
    hnone, hnone, List.nil_append, List.append_nil]
  · intro e he
    have hle := (List.mem_zipIdx he).1
    omega
  · intro e he
    have hlt := (List.mem_zipIdx he).2.1
    omega

namespace Execution

/-! ## Places of nodes -/

/-- A place below a node tells which node it is, and where in the node. -/
theorem nodeField_below_injective {i j : Nat} {steps steps' : List FieldPath.Step}
    (h : (nodeField i).below steps = (nodeField j).below steps') : i = j ∧ steps = steps' := by
  have hsteps := (FieldPath.mk.inj h).2
  simpa [nodeField] using hsteps

section

variable {v : Violation} {i : Nat}

/-- A text starts with that of a node exactly if the place is below the node. -/
theorem isBelow_nodeField_iff (hv : v.field.InSpec) :
    v.isBelow (nodeField i) = true ↔ ∃ steps, v.field = (nodeField i).below steps := by
  rw [Violation.isBelow, List.isPrefixOf_iff_prefix]
  constructor
  · exact FieldPath.exists_below_of_text_prefix (inSpec_nodeField i).2 hv.2
  · rintro ⟨steps, hfield⟩
    rw [hfield, FieldPath.text_below, String.toList_append]
    exact List.prefix_append _ _

/-- The bracket behind a number keeps node 10 apart from node 1. -/
example :
    (nodeField 1).text.toList.isPrefixOf ((nodeField 10).child "client").text.toList = false := by
  decide

/-- A text speaks of a node by itself if the place is below the node, at neither of the two fields.
    -/
theorem isOfNode_iff (hv : v.field.InSpec) :
    v.isOfNode i = true ↔
      ∃ steps, v.field = (nodeField i).below steps ∧
        steps ≠ [.child "name"] ∧ steps ≠ [.child "bootnode"] := by
  -- the two texts stand for the two places, as paths of plain names are known from their texts
  have htext {name : String} (hname : FieldPath.PlainName name) :
      v.field.text = ((nodeField i).child name).text ↔
        v.field = (nodeField i).below [.child name] :=
    ⟨FieldPath.eq_of_text_eq hv.2 ((inSpec_nodeField i).step (s := .child name) hname).2,
      congrArg FieldPath.text⟩
  simp only [Violation.isOfNode, Bool.and_eq_true, bne_iff_ne, ne_eq, isBelow_nodeField_iff hv,
    htext (by decide : FieldPath.PlainName "name"),
    htext (by decide : FieldPath.PlainName "bootnode")]
  constructor
  · rintro ⟨⟨⟨steps, hfield⟩, hname⟩, hbootnode⟩
    rw [hfield] at hname hbootnode
    exact ⟨steps, hfield, fun h => hname (h ▸ rfl), fun h => hbootnode (h ▸ rfl)⟩
  · rintro ⟨steps, hfield, hname, hbootnode⟩
    rw [hfield]
    exact ⟨⟨⟨steps, rfl⟩, fun h => hname (nodeField_below_injective h).2⟩,
      fun h => hbootnode (nodeField_below_injective h).2⟩

end

/-! ## Rules on a node -/

namespace Node

/-- The rules on a node report what is below the node, wherever it stands. -/
theorem relative_problems (c : Chain) (n : Node) : Relative (n.problems c) := by
  have hbootnodes : Relative fun path =>
      n.bootnodes.zipIdx.flatMap fun e : String × Nat =>
        Report.when (!Format.isEnode e.1)
          (.invalid (path.index e.2) (.text e.1) "must be a valid enode url") :=
    .flatMap fun _ _ => .when _ _ _ _
  have hrules : ∀ rule ∈ rules, Relative (rule c n) := by
    simp only [rules, List.forall_mem_cons]
    exact ⟨.when _ _ _ _, .when _ _ _ _, .when _ _ _ _, .ofSome _ fun _ => .when _ _ _ _,
      .ofSome _ fun _ => .when _ _ _ _, .when _ _ _ _, .when _ _ _ _, .when _ _ _ _,
      .when _ _ _ _, ((Relative.when _ _ _ _).append (.when _ _ _ _)).append (.when _ _ _ _),
      .when _ _ _ _, .when _ _ _ _, .when _ _ _ _, capabilities.relative_loggingRule _ _,
      hbootnodes.child _, n.resources.relative_problems.child _,
      List.forall_mem_nil _⟩
  exact .flatMap hrules

/-- What the rules on a node report is below the node, and neither its name nor its being a boot
    node. -/
theorem exists_below_of_mem {c : Chain} {n : Node} {i : Nat} {v : Violation}
    (h : v ∈ n.problems c (nodeField i)) :
    v.field.InSpec ∧ ∃ steps, v.field = (nodeField i).below steps ∧
      steps ≠ [.child "name"] ∧ steps ≠ [.child "bootnode"] := by
  obtain ⟨x, hx, hslot⟩ := List.mem_flatMap.1 ((within_problems c n _).mem_slots h)
  obtain ⟨e, he, hslot⟩ := List.mem_map.1 hslot
  have hfield : v.field = x.parent.step e.1 := (congrArg Prod.fst hslot).symm
  rw [hfield]
  rcases List.mem_cons.1 hx with rfl | hx
  · -- the rules on fields of the node itself leave two of its fields out
    have hsettings : ∀ e ∈ settings, e.1.Plain ∧ e.1 ≠ .child "name" ∧ e.1 ≠ .child "bootnode" := by
      decide +kernel
    obtain ⟨hplain, hname, hbootnode⟩ := hsettings e he
    refine ⟨(inSpec_nodeField i).step hplain, [e.1], rfl, ?_, ?_⟩
    · exact fun h => hname (List.singleton_inj.1 h)
    · exact fun h => hbootnode (List.singleton_inj.1 h)
  · have htidy := n.tidy_places i x (List.mem_cons_of_mem _ hx)
    refine ⟨htidy.parent.step (htidy.last e he), ?_⟩
    have hbelow (name : String) :
        ((nodeField i).child name).step e.1 = (nodeField i).below [.child name, e.1] := by
      simp only [FieldPath.child, FieldPath.step, FieldPath.below, List.append_assoc,
        List.singleton_append]
    simp only [innerPlaces, List.mem_cons, List.not_mem_nil, or_false] at hx
    rcases hx with rfl | rfl
    · exact ⟨_, hbelow "bootnodes", by simp, by simp⟩
    · exact ⟨_, hbelow "resources", by simp, by simp⟩

/-- What the rules on a node report is at that node, and at no other. -/
theorem isOfNode_of_mem {c : Chain} (n : Node) (k : Nat) {v : Violation} (i : Nat)
    (h : v ∈ n.problems c (nodeField k)) : v.isOfNode i = decide (k = i) := by
  obtain ⟨hv, steps, hfield, hname, hbootnode⟩ := exists_below_of_mem h
  rw [Bool.eq_iff_iff, decide_eq_true_iff, isOfNode_iff hv]
  constructor
  · rintro ⟨steps', hfield', -, -⟩
    exact (nodeField_below_injective (hfield.symm.trans hfield')).1
  · rintro rfl
    exact ⟨steps, hfield, hname, hbootnode⟩

end Node

/-! ## Rules on the network -/

/-- The rules on a chain report nothing at a node. -/
theorem Chain.isBelow_of_mem {c : Chain} {v : Violation} (h : v ∈ c.problems) (i : Nat) :
    v.isBelow (nodeField i) = false := by
  obtain ⟨x, hx, hslot⟩ := List.mem_flatMap.1 (c.within_problems.mem_slots h)
  obtain ⟨e, he, hslot⟩ := List.mem_map.1 hslot
  have hfield : v.field = x.parent.step e.1 := (congrArg Prod.fst hslot).symm
  have htidy := tidy_places x hx
  have hv : v.field.InSpec := hfield ▸ htidy.parent.step (htidy.last e he)
  refine Bool.eq_false_iff.2 fun hbelow => ?_
  obtain ⟨steps, hnode⟩ := (isBelow_nodeField_iff hv).1 hbelow
  -- no place of a chain is an item of the second step
  have hitem : (x.parent.step e.1).steps.head? ≠ some (.child "nodes") := by
    have hplaces : ∀ x ∈ places, ∀ e ∈ x.last,
        (x.parent.step e.1).steps.head? ≠ some (.child "nodes") := by
      decide +kernel
    exact hplaces x hx e he
  rw [← hfield, hnode] at hitem
  exact hitem rfl

namespace Network

variable {n : Network} {v : Violation}

/-- The problems of a network at one of its nodes, other than those that its neighbours have a part
    in. -/
def problemsOf (n : Network) (i : Nat) : Report := n.problems.filter (·.isOfNode i)

/-- The network of a chain with one node. -/
def single (c : Chain) (node : Node) : Network := ⟨c, [node]⟩

/-- The same nodes in another order. -/
def permute (n : Network) (σ : Equiv.Perm (Fin n.nodes.length)) : Network :=
  { n with nodes := List.ofFn fun i => n.nodes[σ i] }

/-- The rules on the nodes as a whole report whether the first is a boot node, and names. -/
theorem exists_child_of_mem (h : v ∈ n.firstIsBootnode ++ n.uniqueNames) :
    ∃ i < n.nodes.length, v.field = (nodeField i).below [.child "bootnode"] ∨
      v.field = (nodeField i).below [.child "name"] := by
  rcases List.mem_append.1 h with h | h
  · rw [firstIsBootnode] at h
    split at h
    · next first second rest hnodes =>
      obtain ⟨-, rfl⟩ := Report.mem_when.1 h
      exact ⟨0, by simp [hnodes], .inl rfl⟩
    · exact absurd h List.not_mem_nil
  · obtain ⟨⟨node, i⟩, hnode, h⟩ := List.mem_flatMap.1 h
    obtain ⟨-, rfl⟩ := Report.mem_when.1 h
    exact ⟨i, by simpa using (List.mem_zipIdx hnode).2.1, .inr rfl⟩

/-- The rules on the network as a whole report nothing of a node by itself. -/
theorem isOfNode_eq_false (h : v ∈ n.chain.problems ++ n.firstIsBootnode ++ n.uniqueNames)
    (i : Nat) : v.isOfNode i = false := by
  have hv : v.field.InSpec :=
    Spec.inSpec_of_mem (s := .network n) (List.mem_append_left _ h)
  rw [List.append_assoc] at h
  rcases List.mem_append.1 h with h | h
  · rw [Violation.isOfNode, Chain.isBelow_of_mem h i, Bool.false_and, Bool.false_and]
  · refine Bool.eq_false_iff.2 fun hnode => ?_
    obtain ⟨steps, hfield, hname, hbootnode⟩ := (isOfNode_iff hv).1 hnode
    obtain ⟨j, -, h | h⟩ := exists_child_of_mem h
    · exact hbootnode (nodeField_below_injective (hfield.symm.trans h)).2
    · exact hname (nodeField_below_injective (hfield.symm.trans h)).2

/-- The part of the report on one node is made by the rules on that node. -/
theorem problemsOf_eq {i : Nat} {node : Node} (h : n.nodes[i]? = some node) :
    n.problemsOf i = node.problems n.chain (nodeField i) := by
  have hwhole : (n.chain.problems ++ n.firstIsBootnode ++ n.uniqueNames).filter (·.isOfNode i) =
      [] := by
    refine List.filter_eq_nil_iff.2 fun v hv => ?_
    rw [isOfNode_eq_false hv i]
    exact Bool.false_ne_true
  rw [problemsOf, problems, List.filter_append, hwhole, List.nil_append, nodeProblems]
  exact filter_flatMap_zipIdx h fun node k v hv => node.isOfNode_of_mem k i hv

/-- The rules on nodes report node by node. -/
theorem nodeProblems_eq (n : Network) :
    n.nodeProblems = (List.range n.nodes.length).flatMap n.problemsOf := by
  -- the nodes are gone through by their numbers
  have hrange : List.range n.nodes.length = n.nodes.zipIdx.map Prod.snd := by
    rw [List.zipIdx_map_snd, List.range_eq_range']
  rw [hrange, List.flatMap_map, nodeProblems]
  refine List.flatMap_congr fun e he => (problemsOf_eq ?_).symm
  simpa using List.mk_mem_zipIdx_iff_getElem?.1 he

/-- A report names no node that there is not. -/
theorem lt_of_isBelow (hv : v ∈ n.problems) {i : Nat} (h : v.isBelow (nodeField i) = true) :
    i < n.nodes.length := by
  have hspec : v.field.InSpec := Spec.inSpec_of_mem (s := .network n) hv
  obtain ⟨steps, hfield⟩ := (isBelow_nodeField_iff hspec).1 h
  -- a path tells the number of its node, and every rule takes that number from a node
  rw [problems, List.append_assoc n.chain.problems] at hv
  rcases List.mem_append.1 hv with hv | hv
  · rcases List.mem_append.1 hv with hv | hv
    · rw [Chain.isBelow_of_mem hv i] at h
      cases h
    · obtain ⟨j, hj, hplace | hplace⟩ := exists_child_of_mem hv
      · exact (nodeField_below_injective (hfield.symm.trans hplace)).1 ▸ hj
      · exact (nodeField_below_injective (hfield.symm.trans hplace)).1 ▸ hj
  · obtain ⟨⟨node, j⟩, hnode, hv⟩ := List.mem_flatMap.1 hv
    obtain ⟨-, steps', hplace, -⟩ := Node.exists_below_of_mem hv
    obtain rfl := (nodeField_below_injective (hfield.symm.trans hplace)).1
    simpa using (List.mem_zipIdx hnode).2.1

/-- All that is reported at the node of a network with one node is reported by the rules on it. -/
theorem filter_isBelow_single (c : Chain) (node : Node) :
    (single c node).problems.filter (·.isBelow (nodeField 0)) = node.problems c (nodeField 0) := by
  -- one node need not be a boot node, and has no name before it to repeat
  have hproblems : (single c node).problems = c.problems ++ node.problems c (nodeField 0) := by
    simp [problems, single, firstIsBootnode, uniqueNames, nodeProblems]
  rw [hproblems, List.filter_append, List.filter_eq_nil_iff.2, List.filter_eq_self.2,
    List.nil_append]
  · intro v hv
    obtain ⟨hspec, steps, hfield, -⟩ := Node.exists_below_of_mem hv
    exact (isBelow_nodeField_iff hspec).2 ⟨steps, hfield⟩
  · intro v hv
    rw [Chain.isBelow_of_mem hv 0]
    exact Bool.false_ne_true

/-- Two nodes of the same make in networks of the same chain are reported in the same words, each
    at its own number. -/
theorem map_entry_problemsOf {m : Network} (hchain : m.chain = n.chain) {i j : Nat} {node : Node}
    (hi : n.nodes[i]? = some node) (hj : m.nodes[j]? = some node) :
    (m.problemsOf j).map Violation.entry =
      (n.problemsOf i).map (Violation.movedEntry (nodeField i) (nodeField j)) := by
  rw [problemsOf_eq hi, problemsOf_eq hj, hchain]
  exact (node.relative_problems n.chain).map_entry _ _

/-- The report on a network has what is wrong with the network as a whole first, and then what is
    wrong with its nodes, one after the other. It names no node that there is not. What it says at
    the number of a node, other than of its name and of its being a boot node, is all that the
    report on the network with this node alone says at its only node, with the number 0 replaced.
    So nodes in another order are reported in that order. -/
theorem problems_local (n : Network) :
    (n.problems = n.chain.problems ++ n.firstIsBootnode ++ n.uniqueNames ++
        (List.range n.nodes.length).flatMap n.problemsOf ∧
      ∀ v ∈ n.chain.problems ++ n.firstIsBootnode ++ n.uniqueNames, ∀ i, v.isOfNode i = false) ∧
    (∀ v ∈ n.problems, ∀ i, v.isBelow (nodeField i) = true → i < n.nodes.length) ∧
    (∀ i : Fin n.nodes.length, (n.problemsOf i).map Violation.entry =
      ((single n.chain n.nodes[i]).problems.filter (·.isBelow (nodeField 0))).map
        (Violation.movedEntry (nodeField 0) (nodeField i))) ∧
    ∀ (σ : Equiv.Perm (Fin n.nodes.length)) (i : Fin n.nodes.length),
      ((n.permute σ).problemsOf i).map Violation.entry =
        (n.problemsOf (σ i)).map (Violation.movedEntry (nodeField (σ i)) (nodeField i)) := by
  have hget (i : Fin n.nodes.length) : n.nodes[i.val]? = some n.nodes[i] :=
    List.getElem?_eq_getElem i.isLt
  refine ⟨⟨?_, fun v hv i => isOfNode_eq_false hv i⟩, fun v hv i h => lt_of_isBelow hv h,
    fun i => ?_, fun σ i => ?_⟩
  · rw [← nodeProblems_eq]
    rfl
  · rw [problemsOf_eq (hget i), filter_isBelow_single]
    exact (n.nodes[i].relative_problems n.chain).map_entry _ _
  · refine map_entry_problemsOf (n := n) (m := n.permute σ) rfl (hget (σ i)) ?_
    simp [permute]

end Network

end Execution

end Nodewright
