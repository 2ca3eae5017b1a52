import Mathlib.Data.List.Induction
import Nodewright.Manifest
import Nodewright.Proofs.Codec.Lawful

/-!
# The codecs of records are lawful

Every record is read back from what it is written as. For most records this is read off the list of
their members: each member has a name of its own, and the record is built from the members again.
-/

namespace Nodewright

variable {depth : Nat}

/-- If two results give one, both are there. -/
theorem Fault.exists_of_first_eq_ok {α β : Type} {f : Except Fault (α → β)} {a : Except Fault α}
    {b : β} (h : first f a = .ok b) : ∃ g x, f = .ok g ∧ a = .ok x ∧ g x = b := by
  cases f with
  | error => cases a <;> exact nomatch h
  | ok g =>
    cases a with
    | error => exact nomatch h
    | ok x => exact ⟨g, x, rfl, rfl, Except.ok.inj h⟩

instance : Resources.codec.Lawful (depth + 1) :=
  Fields.lawful_codec _ (fun _ => rfl) (by decide)

namespace Execution

instance : ImportedAccount.codec.Lawful (depth + 1) :=
  Fields.lawful_codec _ (fun _ => rfl) (by decide)

instance : Node.codec.Lawful (depth + 2) :=
  Fields.lawful_codec _ (fun _ => rfl) (by decide)

instance : Clique.codec.Lawful (depth + 2) :=
  Fields.lawful_codec _ (fun _ => rfl) (by decide)

instance : Ibft2.codec.Lawful (depth + 2) :=
  Fields.lawful_codec _ (fun _ => rfl) (by decide)

instance : Ethash.codec.Lawful (depth + 1) :=
  Fields.lawful_codec _ (fun _ => rfl) (by decide)

instance : Account.codec.Lawful (depth + 1) :=
  Fields.lawful_codec _ (fun _ => rfl) (by decide)

/-- The schedule with the blocks of the given forks only. -/
def ForkSchedule.only (forks : List Fork) (s : ForkSchedule) : ForkSchedule :=
  forks.foldl (fun t fork => t.put fork (s.block? fork)) empty

/-- The other forks have no block. -/
theorem ForkSchedule.block?_only (forks : List Fork) (s : ForkSchedule) (f : Fork) :
    (s.only forks).block? f = if f ∈ forks then s.block? f else none := by
  -- members are added at the end, so the induction is from there
  induction forks using List.reverseRecOn with
  | nil => rfl
  | append_singleton forks fork ih =>
    rw [only, List.foldl_append]
    show ((s.only forks).put fork (s.block? fork)).block? f = _
    rw [block?_put, ih]
    by_cases h : f = fork <;> simp [h]

/-- The members for the given forks give back their blocks. -/
instance (forks : List Fork) (s : ForkSchedule) :
    (ForkSchedule.members forks).ReadsBack depth s (forks.map Fork.name) (s.only forks) := by
  induction forks using List.reverseRecOn with
  | nil => exact inferInstanceAs (Fields.ReadsBack depth (.build ForkSchedule.empty) s [] .empty)
  | append_singleton forks fork ih =>
    rw [ForkSchedule.members, ForkSchedule.only, List.foldl_append, List.foldl_append,
      List.map_append]
    exact inferInstanceAs
      ((((ForkSchedule.members forks).map fun s block => s.put fork block).member
        (.optional fork.name .word64) fun s => s.block? fork).ReadsBack depth s _ _)

instance : ForkSchedule.codec.Lawful (depth + 1) := by
  have honly (s : ForkSchedule) : s.only Fork.canonical = s := by
    ext f : 1
    rw [ForkSchedule.block?_only, if_pos f.mem_canonical]
  show ((ForkSchedule.members Fork.canonical).codec "Forks").Lawful (depth + 1)
  exact Fields.lawful_codec _ honly (by decide)

instance : Genesis.codec.Lawful (depth + 3) :=
  Fields.lawful_codec _ (fun _ => rfl) (by decide)

/-- The names of the members of a chain. -/
def Chain.memberNames : List String := ["id", "join", "consensus", "genesis"]

instance (c : Chain) : Chain.members.ReadsBack (depth + 3) c Chain.memberNames c := by
  delta Chain.members
  infer_instance

/-- The members of a network: those of its chain, and its nodes. -/
def Network.members : Fields Network Network :=
  (Chain.members.of Network.chain).map mk |>.member nodesMember nodes

/-- A network is read where its members are, though its nodes are looked for first. -/
theorem Network.decode_of_find_members {setting : Setting} {entries : List (String × Json)}
    {n : Network} (h : members.find setting entries = .ok n) :
    codec.decode setting (.object entries) = .ok n := by
  -- both orders find the same where nothing goes wrong
  obtain ⟨build, nodes, hchain, hnodes, rfl⟩ := Fault.exists_of_first_eq_ok h
  replace hchain : (Chain.members.find setting entries).map mk = .ok build := hchain
  cases hfind : Chain.members.find setting entries with
  | error fault =>
    rw [hfind] at hchain
    exact nomatch hchain
  | ok chain =>
    rw [hfind] at hchain
    obtain rfl := Except.ok.inj hchain
    show decode setting (.object entries) = .ok ⟨chain, nodes⟩
    simp only [decode, hfind, hnodes]

instance (nodes : List Node) : Network.nodesMember.ReadsBack (depth + 3) nodes :=
  inferInstanceAs ((Member.defaulted "nodes" (.list Node.codec) []).ReadsBack (depth + 3) nodes)

instance (n : Network) :
    Network.members.ReadsBack (depth + 3) n (Chain.memberNames ++ ["nodes"]) n := by
  delta Network.members
  infer_instance

instance : Network.codec.Lawful (depth + 4) where
  decode_encode {f} hf setting n := by
    have h : Network.members.ReadsBack (depth + 3) n _ n := inferInstance
    have hnames : (Chain.memberNames ++ ["nodes"]).Nodup := by decide
    obtain ⟨entries, hobject, hkeys, hlookup⟩ := hf.object _ (h.distinct hnames)
    show Network.codec.decode setting (f (.object (Network.members.entries n))) = .ok n
    rw [hobject]
    exact Network.decode_of_find_members
      (h.find hnames hf hkeys (fun name _ => hlookup name) setting)
  decode_null_ne_ok _ _ := nofun
  plain_encode n := .object (inferInstance : Network.members.ReadsBack (depth + 3) n _ n).plain

end Execution

namespace Beacon

instance : Node.codec.Lawful (depth + 2) :=
  Fields.lawful_codec _ (fun _ => rfl) (by decide)

instance : Keystore.codec.Lawful (depth + 1) :=
  Fields.lawful_codec _ (fun _ => rfl) (by decide)

instance : Validator.codec.Lawful (depth + 3) :=
  Fields.lawful_codec _ (fun _ => rfl) (by decide)

end Beacon

namespace Storage

instance : Peer.codec.Lawful (depth + 2) :=
  Fields.lawful_codec _ (fun _ => rfl) (by decide)

instance : ClusterPeer.codec.Lawful (depth + 2) :=
  Fields.lawful_codec _ (fun _ => rfl) (by decide)

end Storage

namespace Oracle

instance : Credentials.codec.Lawful (depth + 1) :=
  Fields.lawful_codec _ (fun _ => rfl) (by decide)

instance : Node.codec.Lawful (depth + 2) :=
  Fields.lawful_codec _ (fun _ => rfl) (by decide)

end Oracle

instance : Aptos.Node.codec.Lawful (depth + 2) :=
  Fields.lawful_codec _ (fun _ => rfl) (by decide)

/-! ## Specs and manifests -/

namespace Spec

/-- A spec is read back as one of its kind. -/
theorem decode_encode {f : Json → Json} (hf : Json.Rearranges f) (setting : Setting) (s : Spec) :
    decode s.kind setting (f s.encode) = .ok s := by
  cases s <;> simp only [kind, decode, encode, Codec.Lawful.decode_encode 4 hf] <;> rfl

/-- No container of a spec stands deeper than in the account of a genesis block. -/
theorem plain_encode (s : Spec) : s.encode.Plain 4 := by
  cases s <;> exact Codec.Lawful.plain_encode _

end Spec

namespace Manifest

instance (s : Spec) : (specMember s.kind).ReadsBack 4 s where
  read v hv f hf setting := by
    obtain rfl := Option.some.inj hv
    exact s.decode_encode hf setting
  absent := nofun
  plain v hv := by
    obtain rfl := Option.some.inj hv
    exact s.plain_encode

instance (m : Manifest) : (members m.spec.kind).ReadsBack 4 m ["name", "spec"] m := by
  delta members
  infer_instance

end Manifest

end Nodewright
