import Nodewright.Proofs.Execution.ForkOrder

/-!
# Which forks are reported as too early

The walk over a schedule compares a fork with the one fork that it carries. Said without the walk, a
fork is reported iff it starts before some fork that comes before it in canonical order, and it is
reported with the first of the highest forks before it.

## Key results

- `FirstHighest`: the first of the highest forks among some
- `Crest.step`: what the walk carries is the first of the highest forks so far
- `problems_exact`: which forks are reported, in which order and with which other fork
-/

namespace Nodewright.Execution

namespace Fork

/-- The forks that come before a fork in canonical order. -/
def before (fork : Fork) : List Fork := canonical.takeWhile (· ≠ fork)

/-- In front of a fork stand the forks before it. -/
theorem before_eq {fork : Fork} {front rest : List Fork} (h : canonical = front ++ fork :: rest) :
    fork.before = front := by
  have hnodup := nodup_canonical
  rw [h, List.nodup_append] at hnodup
  have hfront : ∀ f ∈ front, decide (f ≠ fork) = true := by
    intro f hf
    exact decide_eq_true (hnodup.2.2 f hf fork List.mem_cons_self)
  rw [before, h, List.takeWhile_append_of_pos hfront, List.takeWhile_cons_of_neg (by simp),
    List.append_nil]

end Fork

namespace ForkSchedule

variable {s : ForkSchedule} {front rest : List Fork}

/-- Of the given forks, the one that starts at the highest block; of several such forks, the one
    that comes first. -/
structure FirstHighest (s : ForkSchedule) (forks : List Fork) (fork : Fork) (start : UInt64) :
    Prop where
  mem : fork ∈ forks
  block_eq : s.block? fork = some start
  highest : ∀ f ∈ forks, ∀ block, s.block? f = some block → block ≤ start
  first : ∀ f ∈ fork.before, ∀ block, s.block? f = some block → block < start

/-- A fork that starts before one that comes before it in canonical order. -/
def StartsEarly (s : ForkSchedule) (fork : Fork) : Prop :=
  ∃ block, s.block? fork = some block ∧
    ∃ f ∈ fork.before, ∃ start, s.block? f = some start ∧ block < start

/-- A fork that starts too early, with the first of the highest forks before it. -/
structure LateFork (s : ForkSchedule) where
  fork : Fork
  block : UInt64
  earlier : Fork
  start : UInt64
  block_eq : s.block? fork = some block
  firstHighest : s.FirstHighest fork.before earlier start
  block_lt : block < start

/-- How a fork that starts too early is reported. -/
def LateFork.violation (path : FieldPath) (l : s.LateFork) : Violation :=
  tooEarly path l.fork l.block l.earlier l.start

/-- A fork that is late starts before the one it is reported with. -/
theorem LateFork.startsEarly (l : s.LateFork) : s.StartsEarly l.fork :=
  ⟨l.block, l.block_eq, l.earlier, l.firstHighest.mem, l.start, l.firstHighest.block_eq, l.block_lt⟩

/-- No fork starts before forks that start no later than it. -/
theorem FirstHighest.not_startsEarly {fork earlier : Fork} {block start : UInt64}
    (h : s.FirstHighest fork.before earlier start) (hblock : s.block? fork = some block)
    (hle : start ≤ block) : ¬ s.StartsEarly fork := by
  rintro ⟨block', hblock', f, hf, start', hstart, hlt⟩
  obtain rfl : block = block' := Option.some.inj (hblock.symm.trans hblock')
  exact UInt64.not_lt.2 (UInt64.le_trans (h.highest f hf start' hstart) hle) hlt

/-! ## What the walk carries -/

/-- What the walk carries behind some forks: nothing as long as none of them has a block, and then
    the first of the highest. -/
inductive Crest (s : ForkSchedule) (front : List Fork) : Option (Fork × UInt64) → Prop
  | unset (h : ∀ f ∈ front, s.block? f = none) : Crest s front none
  | set {fork : Fork} {start : UInt64} (h : s.FirstHighest front fork start) :
      Crest s front (some (fork, start))

namespace Crest

variable {highest : Option (Fork × UInt64)} {fork : Fork}

/-- A fork without a block changes nothing. -/
theorem skip (h : s.Crest front highest) (hfork : s.block? fork = none) :
    s.Crest (front ++ [fork]) highest := by
  cases h with
  | unset hunset => exact .unset (List.forall_mem_append.2 ⟨hunset, by simpa using hfork⟩)
  | set hset =>
    refine .set ⟨List.mem_append_left _ hset.mem, hset.block_eq, ?_, hset.first⟩
    refine List.forall_mem_append.2 ⟨hset.highest, ?_⟩
    simp [hfork]

/-- A fork with a block takes the place of the highest one if it starts later, and only then. -/
theorem step {block : UInt64} (h : s.Crest fork.before highest)
    (hfork : s.block? fork = some block) :
    s.Crest (fork.before ++ [fork]) (raise highest fork block) := by
  -- besides the forks in front there is only the fork at hand to compare with
  have hself : ∀ f ∈ [fork], ∀ b, s.block? f = some b → b = block := by
    intro f hf b hb
    obtain rfl := List.mem_singleton.1 hf
    exact Option.some.inj (hb.symm.trans hfork)
  cases h with
  | unset hunset =>
    have hnone : ∀ f ∈ fork.before, ∀ b, s.block? f ≠ some b := by
      intro f hf b hb
      exact nomatch (hunset f hf).symm.trans hb
    rw [raise, if_pos (.inl rfl)]
    refine .set ⟨by simp, hfork, List.forall_mem_append.2 ⟨?_, ?_⟩, ?_⟩
    · exact fun f hf b hb => absurd hb (hnone f hf b)
    · exact fun f hf b hb => UInt64.le_of_eq (hself f hf b hb)
    · exact fun f hf b hb => absurd hb (hnone f hf b)
  | @set earlier start hset =>
    rw [raise]
    split
    · next hraise =>
      -- the highest fork so far starts earlier, and with it all others
      have hlt : start < block := by simpa [height] using hraise
      have hbelow : ∀ f ∈ fork.before, ∀ b, s.block? f = some b → b < block := by
        intro f hf b hb
        exact UInt64.lt_of_le_of_lt (hset.highest f hf b hb) hlt
      refine .set ⟨by simp, hfork, List.forall_mem_append.2 ⟨?_, ?_⟩, hbelow⟩
      · exact fun f hf b hb => UInt64.le_of_lt (hbelow f hf b hb)
      · exact fun f hf b hb => UInt64.le_of_eq (hself f hf b hb)
    · next hkeep =>
      -- an equal block does not take its place, so the first of the highest stays
      have hle : block ≤ start := by simpa [height] using hkeep
      refine .set ⟨by simp [hset.mem], hset.block_eq, ?_, hset.first⟩
      refine List.forall_mem_append.2 ⟨hset.highest, fun f hf b hb => ?_⟩
      exact hself f hf b hb ▸ hle

end Crest

/-! ## What the walk reports -/

/-- What the walk reports of one fork: that it starts too early if it does, and nothing else. -/
theorem lateness_eq (path : FieldPath) {fork : Fork} {block : UInt64}
    {highest : Option (Fork × UInt64)} (h : s.Crest fork.before highest)
    (hfork : s.block? fork = some block) :
    (lateness path highest fork block = [] ∧ ¬ s.StartsEarly fork) ∨
      ∃ l : s.LateFork, l.fork = fork ∧ lateness path highest fork block = [l.violation path] := by
  cases h with
  | unset hunset =>
    refine .inl ⟨rfl, ?_⟩
    rintro ⟨-, -, f, hf, start, hstart, -⟩
    exact nomatch (hunset f hf).symm.trans hstart
  | @set earlier start hset =>
    by_cases hlt : block < start
    · refine .inr ⟨⟨fork, block, earlier, start, hfork, hset, hlt⟩, rfl, ?_⟩
      simp [lateness, LateFork.violation, hlt]
    · refine .inl ⟨by simp [lateness, hlt], ?_⟩
      exact hset.not_startsEarly hfork (UInt64.not_lt.1 hlt)

/-- The walk over the forks behind some others reports those that start too early, in their order.
    What it carries is the first of the highest forks in front. -/
theorem problemsFrom_eq_map (path : FieldPath) {highest : Option (Fork × UInt64)}
    (hsplit : Fork.canonical = front ++ rest) (h : s.Crest front highest) :
    ∃ late : List s.LateFork,
      s.problemsFrom path highest rest = late.map (LateFork.violation path) ∧
      (late.map LateFork.fork).Sublist rest ∧
      ∀ fork ∈ rest, s.StartsEarly fork → fork ∈ late.map LateFork.fork := by
  -- induction on the forks to come; those in front grow, and what is carried is their crest
  induction rest generalizing front highest with
  | nil => exact ⟨[], rfl, .slnil, nofun⟩
  | cons fork rest ih =>
    have hnext : Fork.canonical = (front ++ [fork]) ++ rest := by
      rw [hsplit, List.append_assoc, List.singleton_append]
    cases hfork : s.block? fork with
    | none =>
      obtain ⟨late, hlate, hsub, hall⟩ := ih hnext (h.skip hfork)
      refine ⟨late, (problemsFrom_cons_none hfork rest highest).trans hlate, hsub.cons fork, ?_⟩
      refine List.forall_mem_cons.2 ⟨?_, hall⟩
      rintro ⟨block, hblock, -⟩
      exact nomatch hfork.symm.trans hblock
    | some block =>
      -- canonical order names each fork once, so the forks in front are those before this one
      obtain rfl := Fork.before_eq hsplit
      obtain ⟨late, hlate, hsub, hall⟩ := ih hnext (h.step hfork)
      rw [problemsFrom_cons_some hfork, hlate]
      -- the fork is in time and not reported, or it is late and reported once
      rcases lateness_eq path h hfork with ⟨hnil, hintime⟩ | ⟨l, rfl, hone⟩
      · refine ⟨late, by rw [hnil, List.nil_append], hsub.cons fork, ?_⟩
        exact List.forall_mem_cons.2 ⟨fun hearly => absurd hearly hintime, hall⟩
      · refine ⟨l :: late, by rw [hone, List.map_cons, List.singleton_append], ?_, ?_⟩
        · exact hsub.cons_cons l.fork
        · refine List.forall_mem_cons.2 ⟨fun _ => List.mem_cons_self, fun f hf hearly => ?_⟩
          exact List.mem_cons_of_mem _ (hall f hf hearly)

/-- The report on a schedule has one violation for each fork that starts before one that comes
    before it in canonical order, and no other. The violations stand in canonical order, and each
    names the block of its fork and the first of the highest forks before it, with that block. So
    nothing is reported iff the blocks that are given do not decrease. -/
theorem problems_exact (s : ForkSchedule) (path : FieldPath) :
    (∃ late : List s.LateFork,
      s.problems path = late.map (fun l => tooEarly path l.fork l.block l.earlier l.start) ∧
      (late.map LateFork.fork).Sublist Fork.canonical ∧
      ∀ fork, fork ∈ late.map LateFork.fork ↔ s.StartsEarly fork) ∧
    (s.problems path = [] ↔ (Fork.canonical.filterMap s.block?).Pairwise (· ≤ ·)) := by
  refine ⟨?_, problems_eq_nil_iff s path⟩
  have hstart : s.Crest [] none := .unset nofun
  obtain ⟨late, hlate, hsub, hall⟩ :=
    problemsFrom_eq_map path (List.nil_append Fork.canonical).symm hstart
  refine ⟨late, hlate, hsub, fun fork => ⟨fun hmem => ?_, hall fork fork.mem_canonical⟩⟩
  obtain ⟨l, -, rfl⟩ := List.mem_map.1 hmem
  exact l.startsEarly

/-- Unset forks are passed over, and a late fork does not take the place of the highest one. -/
example :
    let s := ((((empty.set .homestead 1).set .eip150 10).set .eip155 4).set .byzantium 12).set
      .istanbul 11
    (s.problems (.ofRoot "forks")).map (fun v => (v.field.text, v.detail)) =
      [("forks.eip155",
          "Fork eip155 can't be activated (at block 4) before fork eip150 (at block 10)"),
        ("forks.istanbul",
          "Fork istanbul can't be activated (at block 11) before fork byzantium (at block 12)")] :=
    by decide +kernel

end ForkSchedule

end Nodewright.Execution
