import Nodewright.Codec.Record
import Nodewright.Violation

/-! # Schedules of forks

A fork changes the rules of a chain from some block on. The forks have a canonical order, and a
schedule gives some of them the block that they start at.

* `ForkSchedule.fill`   starts each fork that is left out with the highest fork before it
* `ForkSchedule.problems`   the forks that start before a canonically earlier one -/

namespace Nodewright.Execution

/-- A change of the rules of a chain. -/
inductive Fork where
  | homestead
  | eip150
  | eip155
  | eip158
  | byzantium
  | constantinople
  | petersburg
  | istanbul
  | muirGlacier
  | berlin
  | london
  | arrowGlacier
deriving DecidableEq, Repr

namespace Fork

/-- The name of a fork. -/
def name : Fork → String
  | homestead => "homestead"
  | eip150 => "eip150"
  | eip155 => "eip155"
  | eip158 => "eip158"
  | byzantium => "byzantium"
  | constantinople => "constantinople"
  | petersburg => "petersburg"
  | istanbul => "istanbul"
  | muirGlacier => "muirglacier"
  | berlin => "berlin"
  | london => "london"
  | arrowGlacier => "arrowglacier"

/-- The forks in canonical order. -/
def canonical : List Fork :=
  [homestead, eip150, eip155, eip158, byzantium, constantinople, petersburg, istanbul, muirGlacier,
    berlin, london, arrowGlacier]

theorem mem_canonical (f : Fork) : f ∈ canonical := by cases f <;> simp [canonical]

instance : Named Fork where
  all := canonical
  name := name
  mem_all := mem_canonical
  name_injective a b := by cases a <;> cases b <;> simp [name]

end Fork

/-- The blocks that forks start at. -/
structure ForkSchedule where
  block? : Fork → Option UInt64

namespace ForkSchedule

/-- Schedules are the same if every fork has the same block in both. -/
@[ext] theorem ext {s t : ForkSchedule} (h : ∀ f, s.block? f = t.block? f) : s = t := by
  cases s; cases t; congr; exact funext h

/-- It suffices to look at the forks in canonical order, so this can be decided. -/
theorem eq_iff_forall_canonical {s t : ForkSchedule} :
    s = t ↔ ∀ f ∈ Fork.canonical, s.block? f = t.block? f :=
  ⟨fun h _ _ => h ▸ rfl, fun h => ext fun f => h f f.mem_canonical⟩

instance : DecidableEq ForkSchedule := fun _ _ => decidable_of_iff' _ eq_iff_forall_canonical

/-- The schedule without a fork. -/
def empty : ForkSchedule := ⟨fun _ => none⟩

/-- The schedule with another block, or none, for one fork. -/
def put (s : ForkSchedule) (fork : Fork) (block : Option UInt64) : ForkSchedule :=
  ⟨fun f => if f = fork then block else s.block? f⟩

/-- The schedule with a block for one fork. -/
def set (s : ForkSchedule) (fork : Fork) (block : UInt64) : ForkSchedule := s.put fork (some block)

@[simp] theorem block?_put (s : ForkSchedule) (fork f : Fork) (block : Option UInt64) :
    (s.put fork block).block? f = if f = fork then block else s.block? f := rfl

/-- The members of a schedule, for the given forks. -/
def members (forks : List Fork) : Fields ForkSchedule ForkSchedule :=
  forks.foldl (fun fields fork =>
    (fields.map fun s block => s.put fork block).member (.optional fork.name .word64)
      fun s => s.block? fork) (.build empty)

/-- A schedule as JSON. -/
def codec : Codec ForkSchedule := (members Fork.canonical).codec "Forks"

/-- Fills in the given forks one after the other: a fork without a block gets the highest one so
    far. -/
def fillFrom (highest : UInt64) : List Fork → ForkSchedule → ForkSchedule
  | [], s => s
  | fork :: rest, s =>
    match s.block? fork with
    | some block => fillFrom (max highest block) rest s
    | none => fillFrom highest rest (s.set fork highest)

/-- Starts each fork that is left out with the highest fork before it. -/
def fill (s : ForkSchedule) : ForkSchedule := fillFrom 0 Fork.canonical s

/-- A fork starts before a canonically earlier one. -/
def tooEarly (path : FieldPath) (fork : Fork) (block : UInt64) (earlier : Fork) (start : UInt64) :
    Violation :=
  .invalid (path.child fork.name) (.text (toString block.toNat))
    ("Fork " ++ fork.name ++ " can't be activated (at block " ++ toString block.toNat ++
      ") before fork " ++ earlier.name ++ " (at block " ++ toString start.toNat ++ ")")

/-- Checks the given forks one after the other, against the first of the highest forks so far. -/
def problemsFrom (s : ForkSchedule) (path : FieldPath) :
    Option (Fork × UInt64) → List Fork → Report
  | _, [] => []
  | highest, fork :: rest =>
    match s.block? fork, highest with
    | none, highest => problemsFrom s path highest rest
    | some block, none => problemsFrom s path (some (fork, block)) rest
    | some block, some (earlier, start) =>
      if block < start then
        tooEarly path fork block earlier start :: problemsFrom s path highest rest
      else if block = start then problemsFrom s path highest rest
      else problemsFrom s path (some (fork, block)) rest

/-- Each fork that starts before a canonically earlier one, with the highest such fork. -/
def problems (s : ForkSchedule) (path : FieldPath) : Report :=
  problemsFrom s path none Fork.canonical

end ForkSchedule

end Nodewright.Execution
