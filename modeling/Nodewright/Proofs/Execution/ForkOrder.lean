import Nodewright.Execution.Forks

/-!
# Order of forks, and what filling a schedule does to it

`ForkSchedule.fill` and `ForkSchedule.problems` are two walks over the canonical forks, each of
which carries the highest block so far. This file says what each walk does, and that the second
one finds the same in a schedule before and after the first.

## Key results

- `block?_fill_of_some`: a block that is given stays
- `isSome_block?_fill`: every fork has a block afterwards
- `fill_fill`: a filled schedule is left alone
- `problems_fill`: the filled schedule has the problems of the schedule itself
- `problems_eq_nil_iff`: no problem is found iff the blocks that are given do not decrease
-/

namespace Nodewright.Execution

/-- No fork is listed twice, so a walk visits each of them once. -/
theorem Fork.nodup_canonical : Fork.canonical.Nodup := by decide

namespace ForkSchedule

variable {s t : ForkSchedule} {path : FieldPath} {forks : List Fork}

/-- The blocks that a schedule gives to some forks, in their order. -/
def blocks (s : ForkSchedule) (forks : List Fork) : List UInt64 := forks.filterMap s.block?

/-- A fork that is not scheduled has no block. -/
theorem blocks_cons_none {fork : Fork} (h : s.block? fork = none) :
    s.blocks (fork :: forks) = s.blocks forks :=
  List.filterMap_cons_none h

/-- A fork that is scheduled has the first block. -/
theorem blocks_cons_some {fork : Fork} {block : UInt64} (h : s.block? fork = some block) :
    s.blocks (fork :: forks) = block :: s.blocks forks :=
  List.filterMap_cons_some h

/-! ## Filling -/

/-- To schedule a fork changes its block and no other. -/
@[simp] theorem block?_set (s : ForkSchedule) (fork f : Fork) (block : UInt64) :
    (s.set fork block).block? f = if f = fork then some block else s.block? f := rfl

/-- Filling keeps every block that is given. -/
theorem block?_fillFrom_of_some {f : Fork} {block : UInt64} (highest : UInt64)
    (hblock : s.block? f = some block) : (fillFrom highest forks s).block? f = some block := by
  -- induction on the forks that are left; both the schedule and the highest block change on the way
  induction forks generalizing highest s with
  | nil => exact hblock
  | cons fork rest ih =>
    rw [fillFrom]
    split
    · exact ih _ hblock
    · next hunset =>
      -- the fork that gets a block here had none, so it is not `f`
      have hne : f ≠ fork := by
        rintro rfl
        exact nomatch hunset.symm.trans hblock
      exact ih _ (by rw [block?_set, if_neg hne, hblock])

/-- Filling gives a block to every fork that it visits. -/
theorem isSome_block?_fillFrom {f : Fork} (highest : UInt64) (hf : f ∈ forks) :
    ((fillFrom highest forks s).block? f).isSome := by
  induction forks generalizing highest s with
  | nil => exact nomatch hf
  | cons fork rest ih =>
    rw [fillFrom]
    split
    · next block hset =>
      rcases List.mem_cons.1 hf with rfl | hf
      · rw [block?_fillFrom_of_some _ hset]; rfl
      · exact ih _ hf
    · rcases List.mem_cons.1 hf with rfl | hf
      · rw [block?_fillFrom_of_some highest (by rw [block?_set, if_pos rfl])]; rfl
      · exact ih _ hf

/-- Nothing is left to fill where every fork has a block. -/
theorem fillFrom_of_isSome (highest : UInt64) (hfull : ∀ f ∈ forks, (s.block? f).isSome) :
    fillFrom highest forks s = s := by
  induction forks generalizing highest with
  | nil => rfl
  | cons fork rest ih =>
    -- the step of a fork with a block changes the highest block only
    obtain ⟨block, hblock⟩ := Option.isSome_iff_exists.1 (hfull fork List.mem_cons_self)
    rw [fillFrom, hblock]
    exact ih _ fun f hf => hfull f (List.mem_cons_of_mem _ hf)

/-- A block that is given stays. -/
theorem block?_fill_of_some {f : Fork} {block : UInt64} (h : s.block? f = some block) :
    s.fill.block? f = some block :=
  block?_fillFrom_of_some 0 h

/-- A filled schedule has a block for every fork. -/
theorem isSome_block?_fill (s : ForkSchedule) (f : Fork) : (s.fill.block? f).isSome :=
  isSome_block?_fillFrom 0 f.mem_canonical

/-- A filled schedule is left alone, since every fork has a block by then. -/
@[simp] theorem fill_fill (s : ForkSchedule) : s.fill.fill = s.fill :=
  fillFrom_of_isSome 0 fun f _ => isSome_block?_fill s f

/-! ## Checking

The walk carries the first of the highest forks so far. One step of it reports the fork at hand if
that fork starts too early, and then raises the highest fork if it starts later. -/

/-- The block at which the highest fork so far starts. -/
def height (highest : Option (Fork × UInt64)) : UInt64 := (highest.map (·.2)).getD 0

/-- Before the first fork the highest block is that of the start. -/
theorem height_none : height none = 0 := rfl

/-- What is wrong with a fork that starts at a block behind the highest fork so far. -/
def lateness (path : FieldPath) (highest : Option (Fork × UInt64)) (fork : Fork)
    (block : UInt64) : Report :=
  Report.ofSome highest fun (earlier, start) =>
    Report.when (block < start) (tooEarly path fork block earlier start)

/-- The highest fork behind one that starts at a block. -/
def raise (highest : Option (Fork × UInt64)) (fork : Fork) (block : UInt64) :
    Option (Fork × UInt64) :=
  if highest = none ∨ height highest < block then some (fork, block) else highest

/-- Checking passes over a fork that is not scheduled. -/
theorem problemsFrom_cons_none {fork : Fork} (h : s.block? fork = none) (rest : List Fork)
    (highest : Option (Fork × UInt64)) :
    problemsFrom s path highest (fork :: rest) = problemsFrom s path highest rest := by
  simp only [problemsFrom, h]

/-- One step of checking reports the fork at hand, and goes on with the highest one behind it. -/
theorem problemsFrom_cons_some {fork : Fork} {block : UInt64} (h : s.block? fork = some block)
    (rest : List Fork) (highest : Option (Fork × UInt64)) :
    problemsFrom s path highest (fork :: rest) =
      lateness path highest fork block ++ problemsFrom s path (raise highest fork block) rest := by
  -- the definition compares blocks in three cases, and two of them leave the highest fork as it is
  match highest with
  | none => simp [problemsFrom, h, lateness, raise]
  | some (earlier, start) =>
    simp only [problemsFrom, h]
    split
    · next hlt =>
      have hle : ¬ start < block := UInt64.not_lt.2 (UInt64.le_of_lt hlt)
      simp [lateness, raise, height, hlt, hle]
    · next hge =>
      split
      · next heq => simp [lateness, raise, height, heq]
      · next hne =>
        have hlt : start < block :=
          UInt64.lt_of_le_of_ne (UInt64.not_lt.1 hge) (Ne.symm hne)
        simp [lateness, raise, height, hge, hlt]

/-- Checking reads the blocks of the forks that it visits, and nothing else. -/
theorem problemsFrom_congr (highest : Option (Fork × UInt64))
    (h : ∀ f ∈ forks, s.block? f = t.block? f) :
    problemsFrom s path highest forks = problemsFrom t path highest forks := by
  induction forks generalizing highest with
  | nil => rfl
  | cons fork rest ih =>
    have hrest : ∀ f ∈ rest, s.block? f = t.block? f := fun f hf => h f (List.mem_cons_of_mem _ hf)
    simp only [problemsFrom, h fork List.mem_cons_self, ih _ hrest]

/-- The highest block behind a fork is the larger one of the two. -/
theorem height_raise (highest : Option (Fork × UInt64)) (fork : Fork) (block : UInt64) :
    height (raise highest fork block) = max (height highest) block := by
  -- the larger one is taken by the same comparison, but for what happens where both are the same
  have hmax : max (height highest) block = if height highest ≤ block then block
    else height highest := rfl
  rw [hmax, raise]
  split
  · next h =>
    have hle : height highest ≤ block := by
      rcases h with rfl | hlt
      · exact UInt64.zero_le
      · exact UInt64.le_of_lt hlt
    rw [if_pos hle]; rfl
  · next h =>
    have hge : block ≤ height highest := UInt64.not_lt.1 fun hlt => h (.inr hlt)
    split
    · next hle => exact UInt64.le_antisymm hle hge
    · rfl

/-- A fork is in order iff it does not start before the highest one so far. -/
theorem lateness_eq_nil_iff {highest : Option (Fork × UInt64)} {fork : Fork} {block : UInt64} :
    lateness path highest fork block = [] ↔ height highest ≤ block := by
  match highest with
  | none => simp [lateness, height]
  | some (earlier, start) => simp [lateness, height]

/-! ## The filled schedule -/

/-- Two highest forks that lead to the same reports: they start at the same block, and unless that
    is block 0 they are the same fork. A fork that stands for block 0 is never named. -/
structure SameHighest (a b : Option (Fork × UInt64)) : Prop where
  height_eq : height a = height b
  eq : height a ≠ 0 → a = b

namespace SameHighest

variable {a b : Option (Fork × UInt64)}

/-- The same is reported of the fork at hand: block 0 comes before none, and otherwise the two
    highest forks are one. -/
theorem lateness_eq (h : SameHighest a b) (fork : Fork) (block : UInt64) :
    lateness path a fork block = lateness path b fork block := by
  by_cases hz : height a = 0
  · rw [lateness_eq_nil_iff.2 (hz ▸ UInt64.zero_le),
      lateness_eq_nil_iff.2 (h.height_eq ▸ hz ▸ UInt64.zero_le)]
  · rw [h.eq hz]

/-- Behind the same fork the two are still alike. -/
theorem raise (h : SameHighest a b) (fork : Fork) (block : UInt64) :
    SameHighest (ForkSchedule.raise a fork block) (ForkSchedule.raise b fork block) where
  height_eq := by rw [height_raise, height_raise, h.height_eq]
  eq hne := by
    by_cases hz : height a = 0
    · -- both start at block 0, so both make way for a fork that starts later
      have hpos : 0 < block := by
        rw [height_raise, hz] at hne
        refine UInt64.pos_iff_ne_zero.2 ?_
        rintro rfl
        exact hne (ite_self _)
      rw [ForkSchedule.raise, if_pos (.inr (hz ▸ hpos)), ForkSchedule.raise,
        if_pos (.inr (h.height_eq ▸ hz ▸ hpos))]
    · rw [h.eq hz]

/-- A fork that starts with the highest one so far makes no difference. -/
theorem raise_right (h : SameHighest a b) (fork : Fork) :
    SameHighest a (ForkSchedule.raise b fork (height b)) where
  height_eq := by
    rw [height_raise, h.height_eq]
    exact (ite_self _).symm
  eq hne := by
    have hb : b ≠ none := by
      rintro rfl
      exact hne h.height_eq
    rw [ForkSchedule.raise, if_neg, h.eq hne]
    simp [hb]

end SameHighest

/-- The walk over a filled schedule finds what the walk over the schedule itself finds. -/
theorem problemsFrom_fillFrom (hnodup : forks.Nodup) {a b : Option (Fork × UInt64)}
    (hsame : SameHighest a b) :
    problemsFrom (fillFrom (height a) forks s) path b forks = problemsFrom s path a forks := by
  -- both walks go along the same forks: a fork that is given is compared alike, and one that is
  -- filled in is never too early
  induction forks generalizing s a b with
  | nil => rfl
  | cons fork rest ih =>
    obtain ⟨hfork, hrest⟩ := List.nodup_cons.1 hnodup
    cases hblock : s.block? fork with
    | some block =>
      rw [problemsFrom_cons_some (block?_fillFrom_of_some _ hblock), problemsFrom_cons_some hblock,
        hsame.lateness_eq, fillFrom, hblock]
      dsimp only
      rw [← height_raise a fork block, ih hrest (hsame.raise fork block)]
    | none =>
      -- the fork gets the highest block so far, and so it is in order
      have hfilled : (fillFrom (height a) (fork :: rest) s).block? fork = some (height b) := by
        rw [fillFrom, hblock, ← hsame.height_eq]
        exact block?_fillFrom_of_some _ (by rw [block?_set, if_pos rfl])
      have hlate : lateness path b fork (height b) = [] := lateness_eq_nil_iff.2 UInt64.le_rfl
      -- the fork is not visited again, so its new block is not seen
      have hunread : problemsFrom (s.set fork (height a)) path a rest =
          problemsFrom s path a rest := by
        refine problemsFrom_congr _ fun f hf => ?_
        rw [block?_set, if_neg]
        rintro rfl
        exact hfork hf
      rw [problemsFrom_cons_some hfilled, hlate, problemsFrom_cons_none hblock, fillFrom, hblock]
      dsimp only
      rw [List.nil_append, ih hrest (hsame.raise_right fork), hunread]

/-- Filling a schedule neither hides a problem nor adds one. -/
@[simp] theorem problems_fill (s : ForkSchedule) (path : FieldPath) :
    s.fill.problems path = s.problems path := by
  have hstart : SameHighest none none := ⟨rfl, fun _ => rfl⟩
  rw [problems, problems, fill, ← height_none]
  exact problemsFrom_fillFrom Fork.nodup_canonical hstart

/-! ## Schedules without problems -/

/-- The walk finds nothing iff the blocks that it meets neither fall below the highest one so far
    nor decrease. -/
theorem problemsFrom_eq_nil_iff (highest : Option (Fork × UInt64)) :
    problemsFrom s path highest forks = [] ↔
      (∀ block ∈ s.blocks forks, height highest ≤ block) ∧
        (s.blocks forks).Pairwise (· ≤ ·) := by
  induction forks generalizing highest with
  | nil => simp [problemsFrom, blocks]
  | cons fork rest ih =>
    cases hblock : s.block? fork with
    | none => rw [problemsFrom_cons_none hblock, blocks_cons_none hblock, ih]
    | some block =>
      rw [problemsFrom_cons_some hblock, blocks_cons_some hblock, List.append_eq_nil_iff, ih,
        height_raise, lateness_eq_nil_iff, List.forall_mem_cons, List.pairwise_cons]
      -- a fork that is in order is the highest one from here on
      have hmax (h : height highest ≤ block) : max (height highest) block = block := if_pos h
      constructor
      · rintro ⟨hle, habove, hsorted⟩
        rw [hmax hle] at habove
        exact ⟨⟨hle, fun b hb => UInt64.le_trans hle (habove b hb)⟩, habove, hsorted⟩
      · rintro ⟨⟨hle, -⟩, habove, hsorted⟩
        exact ⟨hle, by rwa [hmax hle], hsorted⟩

/-- A schedule has no problem iff the blocks that it gives do not decrease in canonical order. -/
theorem problems_eq_nil_iff (s : ForkSchedule) (path : FieldPath) :
    s.problems path = [] ↔ (s.blocks Fork.canonical).Pairwise (· ≤ ·) := by
  rw [problems, problemsFrom_eq_nil_iff]
  exact and_iff_right fun _ _ => UInt64.zero_le

end ForkSchedule

end Nodewright.Execution
