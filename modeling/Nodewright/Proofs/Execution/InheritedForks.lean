import Nodewright.Proofs.Execution.LateForks

/-!
# Which blocks forks inherit

The walk that fills a schedule carries a block, and the walk that checks it carries a fork with its
block. Both go on in the same way, so `Crest` is an invariant of both: a fork that is left out gets
the highest block before it. Such a block is no news to the check, which is why the filled schedule
has the same forks too early as the schedule itself, behind the same earlier ones.

## Key results

- `Inherits`: the highest block of the forks before a fork
- `block?_fillFrom_of_none`: the walk that fills gives a fork that is left out what it inherits
- `fill_neutral`: what filling a schedule does to its forks, and that it does nothing to its
  problems
-/

namespace Nodewright.Execution

/-- Behind a fork stand other forks. -/
theorem Fork.notMem_of_split {fork : Fork} {front rest : List Fork}
    (h : canonical = front ++ fork :: rest) : fork ∉ rest := by
  have hnodup := nodup_canonical
  rw [h, List.nodup_append] at hnodup
  exact (List.nodup_cons.1 hnodup.2.1).1

namespace ForkSchedule

variable {s t : ForkSchedule} {front rest : List Fork}

/-- The block that a fork inherits: the highest one among the forks that come before it in canonical
    order, and block 0 if none of them has a block. -/
inductive Inherits (s : ForkSchedule) (fork : Fork) : UInt64 → Prop
  | start (h : ∀ f ∈ fork.before, s.block? f = none) : Inherits s fork 0
  | highest {earlier : Fork} {start : UInt64} (hmem : earlier ∈ fork.before)
      (hblock : s.block? earlier = some start)
      (hle : ∀ f ∈ fork.before, ∀ block, s.block? f = some block → block ≤ start) :
      Inherits s fork start

/-- What a walk carries when it comes to a fork is what the fork inherits. -/
theorem Crest.inherits {fork : Fork} {highest : Option (Fork × UInt64)}
    (h : s.Crest fork.before highest) : s.Inherits fork (height highest) := by
  cases h with
  | unset hunset => exact .start hunset
  | set hset => exact .highest hset.mem hset.block_eq hset.highest

/-- The walk that fills the forks behind some others gives one that is left out what it inherits.
    The blocks that it has filled in so far stand at the forks in front, so the schedule that it is
    at agrees with the given one on the forks to come. -/
theorem block?_fillFrom_of_none {fork : Fork} {highest : Option (Fork × UInt64)}
    (hsplit : Fork.canonical = front ++ rest) (h : s.Crest front highest)
    (hagree : ∀ f ∈ rest, t.block? f = s.block? f) (hmem : fork ∈ rest)
    (hfork : s.block? fork = none) :
    ∃ block, (fillFrom (height highest) rest t).block? fork = some block ∧
      s.Inherits fork block := by
  -- induction on the forks to come; the schedule changes too, but only at forks in front
  induction rest generalizing front highest t with
  | nil => exact nomatch hmem
  | cons next rest ih =>
    have hnext : Fork.canonical = (front ++ [next]) ++ rest := by
      rw [hsplit, List.append_assoc, List.singleton_append]
    obtain ⟨hnew, hagree⟩ := List.forall_mem_cons.1 hagree
    -- canonical order names each fork once, so the forks in front are those before this one
    obtain rfl := Fork.before_eq hsplit
    cases hblock : s.block? next with
    | some block =>
      -- a fork with a block is passed, and the block may be a new crest
      have hne : fork ≠ next := by
        rintro rfl
        exact nomatch hfork.symm.trans hblock
      have hmem : fork ∈ rest := (List.mem_cons.1 hmem).resolve_left hne
      rw [fillFrom, hnew, hblock]
      dsimp only
      rw [← height_raise highest next block]
      exact ih hnext (h.step hblock) hagree hmem
    | none =>
      rw [fillFrom, hnew, hblock]
      dsimp only
      rcases List.mem_cons.1 hmem with rfl | hmem
      · refine ⟨height highest, ?_, h.inherits⟩
        exact block?_fillFrom_of_some _ (by rw [block?_set, if_pos rfl])
      · -- the block that is filled in here stands at none of the forks to come
        refine ih hnext (h.skip hblock) (fun f hf => ?_) hmem
        have hne : f ≠ next := by
          rintro rfl
          exact Fork.notMem_of_split hsplit hf
        rw [block?_set, if_neg hne, hagree f hf]

/-- Filling gives every fork a block: a block that is given stays, and a fork that is left out
    inherits the highest block before it. The filled schedule has the problems of the schedule
    itself: a fork that is filled in is not too early, and none is reported for coming before it. -/
theorem fill_neutral (s : ForkSchedule) :
    (∀ fork, (s.fill.block? fork).isSome) ∧
    (∀ fork block, s.block? fork = some block → s.fill.block? fork = some block) ∧
    (∀ fork, s.block? fork = none →
      ∃ block, s.fill.block? fork = some block ∧ s.Inherits fork block) ∧
    ∀ path, s.fill.problems path = s.problems path := by
  refine ⟨isSome_block?_fill s, fun fork block => block?_fill_of_some, ?_, problems_fill s⟩
  intro fork hfork
  have hstart : s.Crest [] none := .unset nofun
  rw [fill, ← height_none]
  exact block?_fillFrom_of_none (List.nil_append Fork.canonical).symm hstart (fun _ _ => rfl)
    fork.mem_canonical hfork

/-- A late fork keeps its block and hands nothing down: the forks behind it inherit from the one
    that it should not have come before. -/
example :
    let s := ((empty.set .eip150 7).set .eip155 3).set .london 7
    [.homestead, .eip155, .eip158, .arrowGlacier].map s.fill.block? =
      [some 0, some 3, some 7, some 7] := by
  decide

end ForkSchedule

end Nodewright.Execution
