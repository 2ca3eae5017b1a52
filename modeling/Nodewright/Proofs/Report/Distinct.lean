import Nodewright.Proofs.Report.Places

/-!
# The places of a spec are told apart

The slots of a spec are at places that are known from their texts, and no two of them are the same.
So the report on a spec has at most one problem at a place, but for the crowded ones: the consensus
rule of a network, and the client of each of its nodes.

## Key results

- `Spec.tidy_places`: the places of a spec are known from their texts
- `Spec.nodup_slots`: no two slots of a spec are the same
- `Spec.isCrowded_of_mem`: only crowded places have a slot for each detail
-/

namespace Nodewright

open FieldPath (field)
open Siblings (slots)

/-! ## Places in a spec -/

namespace FieldPath

/-- A place in the spec that is known from its text. -/
def InSpec (p : FieldPath) : Prop := p.root = "spec" ∧ p.Plain

instance (p : FieldPath) : Decidable p.InSpec := inferInstanceAs (Decidable (_ ∧ _))

/-- One step with a plain name further, a place is still known from its text. -/
theorem InSpec.step {p : FieldPath} {s : Step} (hp : p.InSpec) (hs : s.Plain) :
    (p.step s).InSpec :=
  ⟨hp.1, hp.2.step hs⟩

/-- A place that several rules look at. -/
def IsCrowded (p : FieldPath) : Prop :=
  p = field "consensus" ∨ ∃ i, p = (Execution.nodeField i).child "client"

end FieldPath

/-- The item of a node is known from its text. -/
theorem Execution.inSpec_nodeField (i : Nat) : (nodeField i).InSpec :=
  (by decide : (field "nodes").InSpec).step trivial

namespace Siblings

/-- Slots at different places that are known from their texts, with details only where several
    rules look. -/
structure Tidy (s : Siblings) : Prop where
  parent : s.parent.InSpec
  last : ∀ e ∈ s.last, e.1.Plain
  nodup : s.last.Nodup
  crowded : ∀ e ∈ s.last, e.2.isSome → (s.parent.step e.1).IsCrowded

namespace Tidy

variable {p : FieldPath}

/-- Named fields are tidy if their names are plain and distinct. -/
theorem fields {names : List String} (hp : p.InSpec)
    (hplain : ∀ name ∈ names, FieldPath.PlainName name) (hnodup : names.Nodup) :
    (fields p names).Tidy where
  parent := hp
  last := List.forall_mem_map.2 hplain
  nodup := by
    refine hnodup.map fun name name' h => ?_
    exact FieldPath.Step.child.inj (Prod.mk.inj h).1
  crowded := List.forall_mem_map.2 fun _ _ h => nomatch h

/-- So are items, since numbers are plain and distinct. -/
theorem items {count : Nat} (hp : p.InSpec) : (items p count).Tidy where
  parent := hp
  last := List.forall_mem_map.2 fun _ _ => trivial
  nodup := by
    refine List.nodup_range.map fun i j h => ?_
    exact FieldPath.Step.index.inj (Prod.mk.inj h).1
  crowded := List.forall_mem_map.2 fun _ _ h => nomatch h

end Tidy

end Siblings

open Siblings (Tidy)

/-- Resources have tidy places wherever they stand. -/
theorem Resources.tidy_places {path : FieldPath} (h : path.InSpec) : (places path).Tidy :=
  .fields h (by decide) (by decide)

/-! ## Networks -/

namespace Execution

/-- A chain has several slots at its consensus rule only. -/
theorem Chain.tidy_places : ∀ x ∈ places, x.Tidy := by
  have hspec : Tidy ⟨.spec, settings⟩ := by
    -- a detail is part of a slot only where several rules look
    have hlast : ∀ e ∈ settings, e.2.isSome → e.1 = .child "consensus" := by decide
    refine ⟨by decide, by decide, by decide, fun e he hsome => ?_⟩
    rw [hlast e he hsome]
    exact .inl rfl
  refine List.forall_mem_cons.2 ⟨hspec, List.forall_mem_cons.2 ⟨?_, List.forall_mem_singleton.2 ?_⟩⟩
  · exact .fields (by decide) (by decide) (by decide)
  · exact .fields (by decide) (by decide) (by decide)

/-- A node has several slots at its client only. -/
theorem Node.tidy_places (n : Node) (i : Nat) : ∀ x ∈ n.places i, x.Tidy := by
  have hnode : Tidy ⟨nodeField i, nodeSettings⟩ := by
    have hplain : ∀ e ∈ nodeSettings, e.1.Plain := by decide +kernel
    have hnodup : nodeSettings.Nodup := by decide +kernel
    -- here only the client is looked at by several rules
    have hlast : ∀ e ∈ nodeSettings, e.2.isSome → e.1 = .child "client" := by decide +kernel
    refine ⟨inSpec_nodeField i, hplain, hnodup, fun e he hsome => ?_⟩
    rw [hlast e he hsome]
    exact .inr ⟨i, rfl⟩
  have hchild (name : String) (h : FieldPath.PlainName name) : ((nodeField i).child name).InSpec :=
    (inSpec_nodeField i).step h
  refine List.forall_mem_cons.2 ⟨hnode, List.forall_mem_cons.2 ⟨?_, List.forall_mem_singleton.2 ?_⟩⟩
  · exact .items (hchild "bootnodes" (by decide))
  · exact Resources.tidy_places (hchild "resources" (by decide))

/-- The places of a network are those of its chain and of each of its nodes. -/
theorem Network.tidy_places (n : Network) : ∀ x ∈ n.places, x.Tidy := by
  refine List.forall_mem_append.2 ⟨Chain.tidy_places, fun x hx => ?_⟩
  obtain ⟨⟨node, i⟩, -, hx⟩ := List.mem_flatMap.1 hx
  exact node.tidy_places i x hx

/-- What the places of a node are behind: the node itself, its bootnodes and its resources. -/
theorem Node.map_parent_places (n : Node) (i : Nat) :
    (n.places i).map Siblings.parent =
      [nodeField i, (nodeField i).child "bootnodes", (nodeField i).child "resources"] :=
  rfl

/-- The places of a node are behind the item of the node. -/
theorem Node.getElem?_steps {n : Node} {i : Nat} {p : FieldPath}
    (h : p ∈ (n.places i).map Siblings.parent) : p.steps[1]? = some (.index i) := by
  simp only [map_parent_places, List.mem_cons, List.not_mem_nil, or_false] at h
  rcases h with rfl | rfl | rfl <;> rfl

/-- The places of the chain and of different nodes are behind different fields. -/
theorem Network.nodup_parents (n : Network) : (n.places.map Siblings.parent).Nodup := by
  -- no place of the chain is behind an item, while all places of a node are
  have hchain : ∀ p ∈ Chain.places.map Siblings.parent, ∀ i, p.steps[1]? ≠ some (.index i) := by
    have hparents : Chain.places.map Siblings.parent =
        [.spec, field "genesis", (field "genesis").child "forks"] := rfl
    simp [hparents, FieldPath.spec, FieldPath.ofRoot]
  have hnodes : (n.nodes.zipIdx.map Prod.snd).Nodup := by
    rw [List.zipIdx_map_snd]
    exact List.nodup_range'
  rw [places, List.map_append, List.map_flatMap, List.nodup_append]
  -- within the chain, within one node, between two nodes, and between the chain and a node
  refine ⟨by decide, List.nodup_flatMap.2 ⟨fun e _ => ?_, ?_⟩, ?_⟩
  · rw [Node.map_parent_places]
    simp [nodeField, FieldPath.child, FieldPath.index, FieldPath.step]
  · -- the number of the item tells which node a place is behind
    refine (List.pairwise_map.1 hnodes).imp fun hne p hp hp' => hne ?_
    exact FieldPath.Step.index.inj <| Option.some.inj <|
      (Node.getElem?_steps hp).symm.trans (Node.getElem?_steps hp')
  · rintro p hp _ hnode rfl
    obtain ⟨e, -, hnode⟩ := List.mem_flatMap.1 hnode
    exact hchain p hp e.2 (Node.getElem?_steps hnode)

end Execution

/-! ## Every kind -/

namespace Spec

variable {s : Spec} {v : Violation}

/-- Every place of a spec is tidy, kind by kind. -/
theorem tidy_places (s : Spec) : ∀ x ∈ s.places, x.Tidy := by
  have hresources : (Resources.places (field "resources")).Tidy :=
    Resources.tidy_places (by decide)
  cases s with
  | network s => exact s.tidy_places
  | beaconNode s =>
    exact List.forall_mem_cons.2 ⟨.fields (by decide) (by decide) (by decide),
      List.forall_mem_singleton.2 hresources⟩
  | validator s =>
    exact List.forall_mem_cons.2 ⟨.fields (by decide) (by decide) (by decide),
      List.forall_mem_cons.2 ⟨.items (by decide), List.forall_mem_singleton.2 hresources⟩⟩
  | peer s =>
    exact List.forall_mem_cons.2 ⟨.fields (by decide) (by decide) (by decide),
      List.forall_mem_singleton.2 hresources⟩
  | clusterPeer s =>
    exact List.forall_mem_cons.2 ⟨.fields (by decide) (by decide) (by decide),
      List.forall_mem_cons.2 ⟨.items (by decide), List.forall_mem_singleton.2 hresources⟩⟩
  | chainlinkNode s =>
    exact List.forall_mem_cons.2 ⟨.fields (by decide) (by decide) (by decide),
      List.forall_mem_cons.2 ⟨.items (by decide), List.forall_mem_cons.2
        ⟨.fields (by decide) (by decide) (by decide), List.forall_mem_singleton.2 hresources⟩⟩⟩
  | aptosNode s =>
    exact List.forall_mem_cons.2 ⟨.fields (by decide) (by decide) (by decide),
      List.forall_mem_singleton.2 hresources⟩

/-- No two groups of places of a spec are behind the same field. -/
theorem nodup_parents (s : Spec) : (s.places.map Siblings.parent).Nodup := by
  cases s with
  | network s => exact s.nodup_parents
  | beaconNode s => exact (by decide : (Beacon.Node.places.map Siblings.parent).Nodup)
  | validator s =>
    exact (by decide : [.spec, field "beaconEndpoints", field "resources"].Nodup)
  | peer s => exact (by decide : (Storage.Peer.places.map Siblings.parent).Nodup)
  | clusterPeer s =>
    exact (by decide : [.spec, field "bootstrapPeers", field "resources"].Nodup)
  | chainlinkNode s =>
    exact (by decide : [.spec, field "ethereumHttpEndpoints", field "apiCredentials",
      field "resources"].Nodup)
  | aptosNode s => exact (by decide : (Aptos.Node.places.map Siblings.parent).Nodup)

/-- No two slots of a spec are the same. -/
theorem nodup_slots (s : Spec) : (s.places.flatMap slots).Nodup :=
  Nodewright.nodup_slots s.nodup_parents fun x hx => (s.tidy_places x hx).nodup

/-- Each problem is behind a place of the spec. -/
theorem exists_slot (hv : v ∈ s.problems) :
    ∃ x : Siblings, x.Tidy ∧ ∃ e ∈ x.last, v.slot = (x.parent.step e.1, e.2) := by
  obtain ⟨x, hx, hslot⟩ := List.mem_flatMap.1 (s.within_problems.mem_slots hv)
  obtain ⟨e, he, hslot⟩ := List.mem_map.1 hslot
  exact ⟨x, s.tidy_places x hx, e, he, hslot.symm⟩

/-- Each problem is at a place that is known from its text. -/
theorem inSpec_of_mem (hv : v ∈ s.problems) : v.field.InSpec := by
  obtain ⟨x, hx, e, he, hslot⟩ := exists_slot hv
  have hfield : v.field = x.parent.step e.1 := congrArg Prod.fst hslot
  rw [hfield]
  exact hx.parent.step (hx.last e he)

/-- Each problem is at a place in the spec. -/
theorem under_problems (s : Spec) : ∀ v ∈ s.problems, v.field.root = "spec" :=
  fun _ hv => (inSpec_of_mem hv).1

/-- Only crowded places have a slot for each detail. -/
theorem isCrowded_of_mem (hv : v ∈ s.problems) (h : v.slot.2.isSome) : v.field.IsCrowded := by
  obtain ⟨x, hx, e, he, hslot⟩ := exists_slot hv
  have hfield : v.field = x.parent.step e.1 := congrArg Prod.fst hslot
  rw [hfield]
  rw [hslot] at h
  exact hx.crowded e he h

end Spec

end Nodewright
