import Nodewright.Proofs.Admission.History
import Nodewright.Session

/-!
# What a session holds

Whatever has happened in a session, every manifest in its store has the name that it is stored
under, is filled for good, and has no problem. So it can be applied again at any time, and then
nothing changes.

## Key results

- `Manifest.Settled.admission_self`: such a manifest is admitted in its own place
- `Session.Sound.after`: every event keeps a store of such manifests
- `Session.apply_stored`: what that says of every session that is reached
-/

namespace Nodewright

/-! ## A manifest in its own place -/

/-- Storage that stays the same does not shrink. -/
@[simp] theorem Resources.transitions_self (r : Resources) (path : FieldPath) :
    r.transitions r path = [] := by
  have hstorage : r.storageRule r path = [] := by
    rw [storageRule]
    cases r.storage <;> simp
  rw [transitions, hstorage]
  simp

/-- No rule on changes finds anything where a network stays the same. -/
theorem Execution.Network.transitions_self (n : Network) : n.transitions n = [] := by
  have hchanged {α : Type} [DecidableEq α] (name : String) (text : α → String)
      (value : Option α) : changed name text value value = [] := by
    simp [changed]
  -- a node is compared with itself
  have hpairs : ∀ pair ∈ pairs n n, pair.1.2 = pair.1.1 := by
    rintro ⟨⟨before, after⟩, i⟩ hpair
    obtain ⟨hbefore, hafter⟩ :=
      List.getElem?_zip_eq_some.1 (List.mk_mem_zipIdx_iff_getElem?.1 hpair)
    exact Option.some.inj (hafter.symm.trans hbefore)
  have hnames : renamed n n = [] :=
    List.flatMap_eq_nil_iff.2 fun pair hpair => by simp [hpairs pair hpair]
  have hresources : resourceTransitions n n = [] :=
    List.flatMap_eq_nil_iff.2 fun pair hpair => by simp [hpairs pair hpair]
  rw [transitions, hchanged, hchanged, hchanged, hchanged, hnames, hresources]
  rfl

/-- In its own place, a spec has the problems that it has by itself. -/
theorem Spec.changeProblems_self (s : Spec) : s.changeProblems s = s.problems := by
  -- every kind but networks compares a field with itself
  cases s with
  | network s => simp [changeProblems, problems, Execution.Network.transitions_self]
  | beaconNode s =>
    simp [changeProblems, problems, Beacon.Node.transitions, Beacon.identityTransitions]
  | validator s =>
    simp [changeProblems, problems, Beacon.Validator.transitions, Beacon.identityTransitions]
  | peer s => simp [changeProblems, problems, Storage.Peer.transitions]
  | clusterPeer s => simp [changeProblems, problems, Storage.ClusterPeer.transitions]
  | chainlinkNode s => simp [changeProblems, problems, Oracle.Node.transitions]
  | aptosNode s => simp [changeProblems, problems, Aptos.Node.transitions]

namespace Manifest

/-- A manifest that may stand in a store under a name. -/
structure Settled (name : String) (m : Manifest) : Prop where
  name : m.name = name
  filled : ∀ images, m.fill images = m
  problems : m.problems = []

variable {name : String} {m : Manifest}

/-- What is admitted may be stored. -/
theorem settled_of_admission {images : Image.Overrides} {old : Option Manifest} {a : Admitted}
    (h : m.admission images old = .ok a) : a.manifest.Settled m.name := by
  obtain ⟨hfill, hproblems⟩ := problems_eq_nil_of_admission h
  rw [hfill]
  exact ⟨rfl, fun images' => fill_fill images images' m, hproblems⟩

/-- What may be stored is admitted in its own place, as it is and with its own workloads. -/
theorem Settled.admission_self (h : m.Settled name) (images : Image.Overrides) :
    m.admission images (some m) = .ok ⟨m, m.workloads⟩ := by
  -- filled again it is the same, so it is compared with itself
  refine admission_eq_ok_iff.2 ⟨?_, by rw [h.filled]⟩
  have hself : m.problemsAfter (some m) = m.problems := Spec.changeProblems_self m.spec
  rw [Option.map_some, h.filled, hself, h.problems]

end Manifest

/-! ## Sessions -/

namespace Session

/-- Everything in the store may stand there. -/
def Sound (s : Session) : Prop :=
  ∀ name m, s.get? name = some m → m.Settled name

variable {s : Session}

theorem sound_start (images : Image.Overrides) : (start images).Sound :=
  fun _ _ h => nomatch h

/-- What is admitted is stored in the place of what stood there, and keeps the store sound. -/
theorem Sound.apply {m : Manifest} {a : Admitted} {s' : Session} (h : s.Sound)
    (happly : s.apply m = .ok (a, s')) : s'.Sound := by
  rw [Session.apply] at happly
  split at happly
  · next hadmission =>
    obtain ⟨rfl, rfl⟩ := Prod.mk.inj (Except.ok.inj happly)
    intro name stored hget
    by_cases hname : name = m.name
    · -- what is stored under the name is what has been admitted
      subst hname
      obtain rfl := Option.some.inj ((Keyed.get?_insert_self ..).symm.trans hget)
      exact Manifest.settled_of_admission hadmission
    · exact h name stored ((Keyed.get?_insert_of_ne _ _ hname).symm.trans hget)
  · exact nomatch happly

/-- So does what is taken out. -/
theorem Sound.delete (h : s.Sound) (name : String) : (s.delete name).Sound := by
  intro other stored hget
  by_cases hname : other = name
  · subst hname
    exact nomatch (Keyed.get?_erase_self ..).symm.trans hget
  · exact h other stored ((Keyed.get?_erase_of_ne _ hname).symm.trans hget)

/-- Every event keeps the store sound. The images in force have no part in it. -/
theorem Sound.after (h : s.Sound) (e : Event) : (s.after e).Sound := by
  -- an event that is turned down leaves the session as it is
  cases e with
  | apply m =>
    rw [Session.after]
    split
    · next happly => exact h.apply happly
    · exact h
  | delete name => exact h.delete name
  | setImage key image => exact h
  | mergeImages images => exact h

/-- The sessions that events lead to, if nothing is admitted at first. In between, the images in
    force may be exchanged for any others. -/
inductive Reachable : Session → Prop
  | start (images : Image.Overrides) : Reachable (start images)
  | after {s : Session} (h : Reachable s) (e : Event) : Reachable (s.after e)
  | exchange {s : Session} (h : Reachable s) (images : Image.Overrides) :
      Reachable { s with images }

namespace Reachable

/-- Events one after the other lead on from what has been reached. -/
theorem run (h : s.Reachable) (events : List Event) : (s.run events).Reachable := by
  -- induction on the events, from whichever session the first one leads to
  induction events generalizing s with
  | nil => exact h
  | cons e rest ih => exact ih (h.after e)

/-- What is reached is sound, whatever the events were. -/
theorem sound (h : s.Reachable) : s.Sound := by
  -- induction on how the session has been reached; images have no part in the store
  induction h with
  | start images => exact sound_start images
  | after _ e ih => exact ih.after e
  | exchange _ images ih => exact ih

end Reachable

/-- Whatever has happened in a session, a manifest that is stored under a name has that name, does
    not change if it is filled with any images, has no problem, and can be applied again: it is
    admitted with its own workloads, and the session stays as it is. -/
theorem apply_stored (h : s.Reachable) {name : String} {m : Manifest}
    (hget : s.get? name = some m) :
    m.name = name ∧ (∀ images, m.fill images = m) ∧ m.problems = [] ∧
      s.apply m = .ok (⟨m, m.workloads⟩, s) := by
  have hm := h.sound name m hget
  refine ⟨hm.name, hm.filled, hm.problems, ?_⟩
  have hstored : s.get? m.name = some m := hm.name ▸ hget
  -- what is admitted is what stands there, so storing it changes nothing
  rw [Session.apply, hstored, hm.admission_self]
  dsimp only
  rw [Keyed.insert_of_get? hstored]

/-- A network that was applied, and applied again with a second node and another image. It keeps its
    place when one of another node and with less storage is turned down. -/
theorem apply_stored_sample :
    let m := (History.sample ["a", "b"] "200Gi").fill (Image.Overrides.none.set "GETH_IMAGE" "geth")
    let s := (start .none).run
      [.apply (History.sample ["a"] "100Gi"), .setImage "GETH_IMAGE" "geth",
        .apply (History.sample ["a", "b"] "200Gi"), .delete "other",
        .apply (History.sample ["c"] "1Gi")]
    s.Reachable ∧ s.get? "net" = some m ∧ s.apply m = .ok (⟨m, m.workloads⟩, s) := by
  intro m s
  have hreachable : s.Reachable := (Reachable.start _).run _
  have hget : s.get? "net" = some m := by decide +kernel
  exact ⟨hreachable, hget, (apply_stored hreachable hget).2.2.2⟩

end Session

end Nodewright
