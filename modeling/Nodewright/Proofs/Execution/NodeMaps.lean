import Mathlib.Data.List.Basic
import Nodewright.Execution.Rules

/-!
# Networks node by node

The rules of a network look at its nodes through their names, the part that the first one plays,
their resources, and what each of them is reported for by itself. A change of the nodes that leaves
these alone is unnoticed: the network has the same problems before and after, and the same changes
are found against an older network.

## Key results

- `Node.Unnoticed`: a change of nodes that no rule of a network sees
- `Network.problems_mapNodes`: it makes no difference to the problems of a network
- `Network.transitions_mapNodes`: nor to what changed in a network
-/

namespace Nodewright.Execution

/-- A change of nodes that no rule of a network sees. -/
structure Node.Unnoticed (f : Node → Node) : Prop where
  name : ∀ n, (f n).name = n.name
  bootnode : ∀ n, (f n).bootnode = n.bootnode
  resources : ∀ n, (f n).resources = n.resources
  problems : ∀ c n path, (f n).problems c path = n.problems c path

/-- To change nothing goes unnoticed. -/
theorem Node.Unnoticed.id : Node.Unnoticed id :=
  ⟨fun _ => rfl, fun _ => rfl, fun _ => rfl, fun _ _ _ => rfl⟩

namespace Network

/-- A network with each of its nodes changed. -/
def mapNodes (f : Node → Node) (n : Network) : Network := { n with nodes := n.nodes.map f }

/-- A network stays what it is if its nodes do. -/
@[simp] theorem mapNodes_id (n : Network) : n.mapNodes id = n := by
  rw [mapNodes, List.map_id]

variable {f g : Node → Node}

/-- The rule on the first node asks whether it is a bootnode. -/
theorem firstIsBootnode_mapNodes (h : Node.Unnoticed f) (n : Network) :
    (n.mapNodes f).firstIsBootnode = n.firstIsBootnode := by
  obtain ⟨chain, nodes⟩ := n
  -- the rule looks at the first of two nodes or more
  match nodes with
  | [] => rfl
  | [_] => rfl
  | first :: _ :: _ =>
    simp only [firstIsBootnode, mapNodes, List.map_cons, h.bootnode first]

/-- The rule on names compares them. -/
theorem uniqueNames_mapNodes (h : Node.Unnoticed f) (n : Network) :
    (n.mapNodes f).uniqueNames = n.uniqueNames := by
  simp only [uniqueNames, mapNodes, List.zipIdx_map, List.flatMap_map, ← List.map_take,
    List.any_map, Prod.map_fst, Prod.map_snd, Function.comp_def, h.name, id_eq]

/-- The rules on nodes find the same at each place. -/
theorem nodeProblems_mapNodes (h : Node.Unnoticed f) (n : Network) :
    (n.mapNodes f).nodeProblems = n.nodeProblems := by
  rw [nodeProblems, nodeProblems, mapNodes, List.zipIdx_map, List.flatMap_map]
  exact List.flatMap_congr fun pair _ => h.problems _ _ _

/-- The problems of a network stay the same. -/
theorem problems_mapNodes (h : Node.Unnoticed f) (n : Network) :
    (n.mapNodes f).problems = n.problems := by
  rw [problems, problems, firstIsBootnode_mapNodes h, uniqueNames_mapNodes h,
    nodeProblems_mapNodes h]
  rfl

/-- The rules on changes compare the chains, and the names and resources of nodes. -/
theorem transitions_mapNodes (hf : Node.Unnoticed f) (hg : Node.Unnoticed g)
    (old new : Network) :
    (old.mapNodes f).transitions (new.mapNodes g) = old.transitions new := by
  -- nodes are compared in pairs, old and new, and both of a pair are changed without notice
  have hpairs : pairs (old.mapNodes f) (new.mapNodes g) =
      (pairs old new).map (Prod.map (Prod.map f g) id) := by
    rw [pairs, pairs, mapNodes, mapNodes, List.zip_map, List.zipIdx_map]
  have hrenamed : renamed (old.mapNodes f) (new.mapNodes g) = renamed old new := by
    simp only [renamed, hpairs, List.flatMap_map, Prod.map_fst, Prod.map_snd, hf.name, hg.name,
      id_eq]
  have hresources : resourceTransitions (old.mapNodes f) (new.mapNodes g) =
      resourceTransitions old new := by
    simp only [resourceTransitions, hpairs, List.flatMap_map, Prod.map_fst, Prod.map_snd,
      hf.resources, hg.resources, id_eq]
  rw [transitions, transitions, hrenamed, hresources]
  rfl

end Network

end Nodewright.Execution
