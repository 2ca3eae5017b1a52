import Nodewright.Admission
import Nodewright.Proofs.Execution.Filling
import Nodewright.Proofs.Json.Kept

/-!
# Filling keeps every setting

Every scalar that stands somewhere in a manifest, and every list of scalars that is not empty,
stands there after filling too. The proof goes through the codecs, from the inside to the outside:
most members of a record are the same before and after, and each of the others is put in only
where there is none.

## Key results

- `OptionKeeps.optional_getD`, `OptionKeeps.listing`: members that are filled in
- `Execution.Genesis.keeps_fill`, `Execution.Node.keeps_fill` and their like: records
- `Manifest.keeps_fill`: manifests
-/

namespace Nodewright

open Json (EntriesKeep OptionKeeps)

/-! ## Members that are filled in -/

namespace Json.OptionKeeps

variable {α : Type}

/-- A member that is always written keeps its settings if its value does. -/
theorem defaulted {a b : α} (name : String) {c : Codec α} (usual : α)
    (h : (c.encode a).Keeps (c.encode b)) :
    OptionKeeps ((Member.defaulted name c usual).write a)
      ((Member.defaulted name c usual).write b) :=
  .some h

/-- A member that may be missing keeps its settings if its value does. -/
theorem optional {o o' : Option α} (name : String) {c : Codec α}
    (h : ∀ a, o = Option.some a → ∃ b, o' = Option.some b ∧ (c.encode a).Keeps (c.encode b)) :
    OptionKeeps ((Member.optional name c).write o) ((Member.optional name c).write o') := by
  cases o with
  | none => exact .none _
  | some a =>
    obtain ⟨b, rfl, hkeeps⟩ := h a rfl
    exact .some hkeeps

/-- A member keeps its settings if a value that is there stays. -/
theorem optional_of_some {o o' : Option α} (name : String) (c : Codec α)
    (h : ∀ a, o = Option.some a → o' = Option.some a) :
    OptionKeeps ((Member.optional name c).write o) ((Member.optional name c).write o') :=
  optional name fun a ha => ⟨a, h a ha, .refl _⟩

/-- A usual value in the place of one that is missing. -/
theorem optional_getD (name : String) (c : Codec α) (o : Option α) (usual : α) :
    OptionKeeps ((Member.optional name c).write o)
      ((Member.optional name c).write (Option.some (o.getD usual))) :=
  optional_of_some name c fun a ha => by rw [ha]; rfl

/-- Usual items in the place of an empty list. -/
theorem listing {items items' : List α} (name : String) (c : Codec α)
    (h : items ≠ [] → items' = items) :
    OptionKeeps ((Member.listing name c).write items) ((Member.listing name c).write items') := by
  cases items with
  | nil => exact .none _
  | cons a rest =>
    rw [h (List.cons_ne_nil a rest)]
    exact .refl _

end Json.OptionKeeps

/-- Resources keep their settings. -/
theorem Resources.keeps_fill (p : ResourceProfile) (r : Resources) :
    (codec.encode r).Keeps (codec.encode (r.fill p)) := by
  apply Json.Keeps.object
  · repeat' apply EntriesKeep.member
    · exact .nil
    -- the class of storage is never filled in
    all_goals try exact OptionKeeps.refl _
    all_goals exact OptionKeeps.optional_getD _ _ _ _
  · decide

/-- An endpoint keeps whether it is offered. -/
theorem Endpoint.keeps_enabled (e : Endpoint) (port : UInt16) (name : String) :
    OptionKeeps ((Member.defaulted name Codec.flag false).write e.enabled)
      ((Member.defaulted name Codec.flag false).write (e.fill port).enabled) := by
  rw [enabled_fill]
  exact .refl _

/-- An endpoint keeps its host. -/
theorem Endpoint.keeps_host (e : Endpoint) (port : UInt16) (name : String) :
    OptionKeeps ((Member.optional name Codec.text).write e.host)
      ((Member.optional name Codec.text).write (e.fill port).host) := by
  unfold fill
  split
  · exact .optional_getD _ _ _ _
  · exact .refl _

/-- An endpoint keeps its port. -/
theorem Endpoint.keeps_port (e : Endpoint) (port : UInt16) (name : String) :
    OptionKeeps ((Member.optional name Codec.word16).write e.port)
      ((Member.optional name Codec.word16).write (e.fill port).port) := by
  unfold fill
  split
  · exact .optional_getD _ _ _ _
  · exact .refl _

/-! ## Execution networks -/

namespace Execution

/-- The parameters of proof of authority keep their settings. -/
theorem Clique.keeps_fill (c : Clique) : (codec.encode c).Keeps (codec.encode c.fill) := by
  apply Json.Keeps.object
  · repeat' apply EntriesKeep.member
    · exact .nil
    all_goals try exact OptionKeeps.refl _
    all_goals exact OptionKeeps.optional_getD _ _ _ _
  · decide

/-- So do those of Istanbul. -/
theorem Ibft2.keeps_fill (i : Ibft2) : (codec.encode i).Keeps (codec.encode i.fill) := by
  apply Json.Keeps.object
  · repeat' apply EntriesKeep.member
    · exact .nil
    all_goals try exact OptionKeeps.refl _
    all_goals exact OptionKeeps.optional_getD _ _ _ _
  · decide

/-- A schedule has a member for every fork, so its members are added fork by fork. -/
theorem ForkSchedule.members_keep (s : ForkSchedule) (forks : List Fork) :
    EntriesKeep (forks.map Fork.name) ((members forks).entries s)
      ((members forks).entries s.fill) := by
  -- filling changes no block that is given
  have hfork (f : Fork) : OptionKeeps ((Member.optional f.name Codec.word64).write (s.block? f))
      ((Member.optional f.name Codec.word64).write (s.fill.block? f)) :=
    .optional_of_some _ _ fun block hblock => block?_fill_of_some hblock
  rw [members, ← List.nil_append (forks.map Fork.name)]
  refine EntriesKeep.foldl Fork.name ?_ forks ?_
  · exact fun _ _ f h => .member (m := .optional f.name .word64) (h.map _) (hfork f)
  · exact .nil

/-- A schedule keeps the blocks of its forks. -/
theorem ForkSchedule.keeps_fill (s : ForkSchedule) :
    (codec.encode s).Keeps (codec.encode s.fill) :=
  .object (members_keep s Fork.canonical) (by decide)

namespace Genesis

variable {g : Genesis}

/-- A first block keeps its settings. -/
theorem keeps_fill (k : Option Consensus) (g : Genesis) :
    (codec.encode g).Keeps (codec.encode (g.fill k)) := by
  apply Json.Keeps.object
  · repeat' apply EntriesKeep.member
    · exact .nil
    all_goals rw [fill_eq]
    all_goals try exact OptionKeeps.refl _
    -- the header
    iterate 6 exact OptionKeeps.optional_getD _ _ _ _
    -- the forks, and the parameters of each consensus rule
    · refine .optional _ fun forks hforks => ⟨forks.fill, ?_, ForkSchedule.keeps_fill forks⟩
      simp [fillHeader, hforks]
    · refine .optional _ fun c hc => ⟨c.fill, ?_, c.keeps_fill⟩
      have hblock : g.hasBlock .proofOfAuthority = true := by simp [hasBlock, hc]
      simp [fill_of_hasBlock k hblock, hc]
    · refine .optional _ fun i hi => ⟨i.fill, ?_, i.keeps_fill⟩
      have hblock : g.hasBlock .istanbulBft = true := by simp [hasBlock, hi]
      simp [fill_of_hasBlock k hblock, hi]
    · refine .optional_of_some _ _ fun e he => ?_
      have hblock : g.hasBlock .proofOfWork = true := by simp [hasBlock, he]
      simp [fill_of_hasBlock k hblock, fillHeader, he]
  · decide

end Genesis

/-- The usual origins are put in only where none are named. -/
theorem Node.originsOr_of_ne_nil (n : Node) {origins : List String} (h : origins ≠ []) :
    n.originsOr origins = origins := by
  simp [originsOr, h]

/-- The usual groups of calls are put in only where none are named. -/
theorem CallEndpoint.apis_fill_of_ne_nil {e : CallEndpoint} (port : UInt16) (h : e.apis ≠ []) :
    (e.fill port).apis = e.apis := by
  simp [fill, h]

/-- A node keeps its settings. -/
theorem Node.keeps_fill (images : Image.Overrides) (n : Node) :
    (codec.encode n).Keeps (codec.encode (n.fill images)) := by
  apply Json.Keeps.object
  · repeat' apply EntriesKeep.member
    · exact .nil
    all_goals try exact OptionKeeps.refl _
    -- the image, the way to synchronise and the port between nodes
    · exact .optional_getD _ _ _ _
    · exact .optional_getD _ _ _ _
    · exact .optional_getD _ _ _ _
    -- the interfaces
    · exact n.rpc.endpoint.keeps_enabled 8545 _
    · exact n.rpc.endpoint.keeps_host 8545 _
    · exact n.rpc.endpoint.keeps_port 8545 _
    · exact .listing _ _ fun h => CallEndpoint.apis_fill_of_ne_nil 8545 h
    · exact n.ws.endpoint.keeps_enabled 8546 _
    · exact n.ws.endpoint.keeps_host 8546 _
    · exact n.ws.endpoint.keeps_port 8546 _
    · exact .listing _ _ fun h => CallEndpoint.apis_fill_of_ne_nil 8546 h
    · exact n.graphql.keeps_enabled 8547 _
    · exact n.graphql.keeps_host 8547 _
    · exact n.graphql.keeps_port 8547 _
    -- the origins that may reach them
    · exact .listing _ _ fun h => n.originsOr_of_ne_nil h
    · exact .listing _ _ fun h => n.originsOr_of_ne_nil h
    · exact .optional_getD _ _ _ _
    · exact .defaulted _ _ (Resources.keeps_fill _ _)
  · decide

/-- A network keeps its settings. -/
theorem Network.keeps_fill (images : Image.Overrides) (n : Network) :
    (codec.encode n).Keeps (codec.encode (n.fill images)) := by
  have hnodes : ((Codec.list Node.codec).encode n.nodes).Keeps
      ((Codec.list Node.codec).encode (n.fill images).nodes) := by
    refine .array ?_
    rw [List.forall₂_map_left_iff, fill, List.map_map, List.forall₂_map_right_iff]
    exact List.forall₂_same.2 fun node _ => node.keeps_fill images
  apply Json.Keeps.object
  -- the members of the chain stand in front of the nodes
  · apply EntriesKeep.append
    · repeat' apply EntriesKeep.member
      · exact .nil
      all_goals try exact OptionKeeps.refl _
      refine .optional _ fun g hg => ⟨g.fill n.chain.consensus, ?_, g.keeps_fill _⟩
      simp [fill, Chain.fill, hg]
    · exact .single "nodes" _ _ (.some hnodes)
  · decide

end Execution

/-! ## The other kinds -/

/-- A beacon node keeps its settings. -/
theorem Beacon.Node.keeps_fill (images : Image.Overrides) (n : Beacon.Node) :
    (codec.encode n).Keeps (codec.encode (n.fill images)) := by
  have horigins {origins : List String} (h : origins ≠ []) : n.originsOr origins = origins := by
    simp [originsOr, h]
  apply Json.Keeps.object
  · repeat' apply EntriesKeep.member
    · exact .nil
    all_goals try exact OptionKeeps.refl _
    -- the image, and the interfaces
    · exact .optional_getD _ _ _ _
    · exact n.rest.keeps_enabled 5051 _
    · exact n.rest.keeps_host 5051 _
    · exact n.rest.keeps_port 5051 _
    · exact n.rpc.keeps_enabled 4000 _
    · exact n.rpc.keeps_host 4000 _
    · exact n.rpc.keeps_port 4000 _
    · exact n.grpc.keeps_enabled 3500 _
    · exact n.grpc.keeps_host 3500 _
    · exact n.grpc.keeps_port 3500 _
    -- the port between nodes, and the origins that may reach the interfaces
    · exact .optional_getD _ _ _ _
    · exact .listing _ _ horigins
    · exact .listing _ _ horigins
    · exact .optional_getD _ _ _ _
    · exact .defaulted _ _ (Resources.keeps_fill _ _)
  · decide

/-- A validator keeps its settings. -/
theorem Beacon.Validator.keeps_fill (images : Image.Overrides) (v : Beacon.Validator) :
    (codec.encode v).Keeps (codec.encode (v.fill images)) := by
  apply Json.Keeps.object
  · repeat' apply EntriesKeep.member
    · exact .nil
    all_goals try exact OptionKeeps.refl _
    -- the image, the graffiti and the level of logging
    · exact .optional_getD _ _ _ _
    · exact .optional_getD _ _ _ _
    · exact .optional_getD _ _ _ _
    · exact .defaulted _ _ (Resources.keeps_fill _ _)
  · decide

/-- A peer keeps its settings. -/
theorem Storage.Peer.keeps_fill (images : Image.Overrides) (p : Storage.Peer) :
    (codec.encode p).Keeps (codec.encode (p.fill images)) := by
  apply Json.Keeps.object
  · repeat' apply EntriesKeep.member
    · exact .nil
    all_goals try exact OptionKeeps.refl _
    -- the image and the first profiles
    · exact .optional_getD _ _ _ _
    · exact .listing _ _ fun h => by simp [fill, h]
    -- two interfaces, the way to find peers, and the level of logging
    · exact .optional_getD _ _ _ _
    · exact .optional_getD _ _ _ _
    · exact .optional_getD _ _ _ _
    · exact .optional_getD _ _ _ _
    · exact .optional_getD _ _ _ _
    · exact .optional_getD _ _ _ _
    · exact .defaulted _ _ (Resources.keeps_fill _ _)
  · decide

/-- A cluster peer keeps its settings. -/
theorem Storage.ClusterPeer.keeps_fill (images : Image.Overrides) (p : Storage.ClusterPeer) :
    (codec.encode p).Keeps (codec.encode (p.fill images)) := by
  apply Json.Keeps.object
  · repeat' apply EntriesKeep.member
    · exact .nil
    all_goals try exact OptionKeeps.refl _
    -- the image, the trusted peers and the level of logging
    · exact .optional_getD _ _ _ _
    · exact .listing _ _ fun h => by simp [fill, h]
    · exact .optional_getD _ _ _ _
    · exact .defaulted _ _ (Resources.keeps_fill _ _)
  · decide

/-- An oracle node keeps its settings. -/
theorem Oracle.Node.keeps_fill (images : Image.Overrides) (n : Oracle.Node) :
    (codec.encode n).Keeps (codec.encode (n.fill images)) := by
  apply Json.Keeps.object
  · repeat' apply EntriesKeep.member
    · exact .nil
    all_goals try exact OptionKeeps.refl _
    -- the image and three ports
    · exact .optional_getD _ _ _ _
    · exact .optional_getD _ _ _ _
    · exact .optional_getD _ _ _ _
    · exact .optional_getD _ _ _ _
    · exact .listing _ _ fun h => by simp [fill, h]
    · exact .optional_getD _ _ _ _
    · exact .defaulted _ _ (Resources.keeps_fill _ _)
  · decide

/-- An Aptos node keeps its settings. -/
theorem Aptos.Node.keeps_fill (images : Image.Overrides) (n : Aptos.Node) :
    (codec.encode n).Keeps (codec.encode (n.fill images)) := by
  apply Json.Keeps.object
  · repeat' apply EntriesKeep.member
    · exact .nil
    all_goals try exact OptionKeeps.refl _
    -- the image, the interface and the port between nodes
    · exact .optional_getD _ _ _ _
    · exact n.api.keeps_enabled 8080 _
    · exact n.api.keeps_host 8080 _
    · exact n.api.keeps_port 8080 _
    · exact .optional_getD _ _ _ _
    · exact .optional_getD _ _ _ _
    · exact .defaulted _ _ (Resources.keeps_fill _ _)
  · decide

/-! ## Every kind -/

/-- A spec of any kind keeps its settings. -/
theorem Spec.keeps_fill (images : Image.Overrides) (s : Spec) :
    s.encode.Keeps (s.fill images).encode := by
  cases s with
  | network s => exact s.keeps_fill images
  | beaconNode s => exact s.keeps_fill images
  | validator s => exact s.keeps_fill images
  | peer s => exact s.keeps_fill images
  | clusterPeer s => exact s.keeps_fill images
  | chainlinkNode s => exact s.keeps_fill images
  | aptosNode s => exact s.keeps_fill images

/-- A manifest keeps its settings. -/
theorem Manifest.keeps_fill (images : Image.Overrides) (m : Manifest) :
    m.toJson.Keeps (m.fill images).toJson := by
  rw [toJson, toJson, kind_fill]
  apply Json.Keeps.object
  -- the kind stands in front of the members
  · apply EntriesKeep.cons
    · exact .refl _
    · repeat' apply EntriesKeep.member
      · exact .nil
      · exact .refl _
      · exact .some (m.spec.keeps_fill images)
  · show ["kind", "name", "spec"].Nodup
    decide

end Nodewright
