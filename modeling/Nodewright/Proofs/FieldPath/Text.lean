import Mathlib.Logic.Basic
import Nodewright.FieldPath
import Nodewright.Proofs.Arguments.Items
import Nodewright.Proofs.Text.Runs

/-!
# Paths are known from their texts

A report names places by texts. The text of a path tells which path it is, as long as no name in it
holds one of the characters that steps start with: a name reaches up to the next of them, and the
number of an item up to the closing bracket.

## Key results

- `FieldPath.step_injective`: a place is known from its parent and its last step
- `FieldPath.eq_of_text_eq`: paths of plain names are known from their texts
-/

namespace Nodewright.FieldPath

/-- The last step of a path is known, and so is the path to it. -/
theorem step_injective {p q : FieldPath} {s t : Step} (h : p.step s = q.step t) :
    p = q ∧ s = t := by
  obtain ⟨hroot, hsteps⟩ := FieldPath.mk.inj h
  obtain ⟨hinit, hlast⟩ := List.append_inj' hsteps rfl
  exact ⟨congrArg₂ mk hroot hinit, List.singleton_inj.1 hlast⟩

/-! ## Plain names -/

/-- Whether no step starts with a character. -/
def isPlain (c : Char) : Bool := c ≠ '.' && c ≠ '['

/-- A name that no step starts in. -/
def PlainName (name : String) : Prop := ∀ c ∈ name.toList, isPlain c = true

-- only the characters of the name are gone through, not all that there are
instance (name : String) : Decidable (PlainName name) :=
  List.decidableBAll (fun c => isPlain c = true) name.toList

/-- A step to a plain name or to an item. -/
def Step.Plain : Step → Prop
  | child name => PlainName name
  | index _ => True

instance : (s : Step) → Decidable s.Plain
  | .child name => inferInstanceAs (Decidable (PlainName name))
  | .index _ => inferInstanceAs (Decidable True)

/-- A path whose names are plain. -/
structure Plain (p : FieldPath) : Prop where
  root : PlainName p.root
  steps : ∀ s ∈ p.steps, s.Plain

instance (p : FieldPath) : Decidable p.Plain :=
  decidable_of_iff (PlainName p.root ∧ ∀ s ∈ p.steps, s.Plain)
    ⟨fun h => ⟨h.1, h.2⟩, fun h => ⟨h.root, h.steps⟩⟩

/-- A plain step leads on to a plain path. -/
theorem Plain.step {p : FieldPath} {s : Step} (hp : p.Plain) (hs : s.Plain) : (p.step s).Plain where
  root := hp.root
  steps := List.forall_mem_append.2 ⟨hp.steps, List.forall_mem_singleton.2 hs⟩

/-! ## Texts of steps -/

/-- The characters of steps one behind the other. -/
def stepChars (steps : List Step) : List Char := steps.flatMap fun s => s.text.toList

/-- The text of a path is the root with its steps behind it. -/
theorem toList_text (p : FieldPath) : p.text.toList = p.root.toList ++ stepChars p.steps := by
  rw [text, String.toList_append, String.toList_join, List.flatMap_map]
  rfl

/-- A step to a field starts with a dot. -/
theorem stepChars_child (name : String) (steps : List Step) :
    stepChars (.child name :: steps) = '.' :: (name.toList ++ stepChars steps) := by
  simp [stepChars, Step.text]

/-- A step to an item starts with a bracket, and ends with one. -/
theorem stepChars_index (i : Nat) (steps : List Step) :
    stepChars (.index i :: steps) = '[' :: ((toString i).toList ++ ']' :: stepChars steps) := by
  simp [stepChars, Step.text]

/-- A name ends where steps start. -/
theorem isPlain_head?_stepChars (steps : List Step) :
    ∀ c, (stepChars steps).head? = some c → isPlain c = false := by
  intro c h
  cases steps with
  | nil => cases h
  | cons s steps =>
    cases s with
    | child name =>
      rw [stepChars_child] at h
      obtain rfl := Option.some.inj h
      rfl
    | index i =>
      rw [stepChars_index] at h
      obtain rfl := Option.some.inj h
      rfl

/-- A plain name is known where none of its characters can follow it, and so is what follows. -/
theorem eq_of_name_append {name name' : String} (hname : PlainName name) (hname' : PlainName name')
    {rest rest' : List Char} (hstop : ∀ c, rest.head? = some c → isPlain c = false)
    (hstop' : ∀ c, rest'.head? = some c → isPlain c = false)
    (h : name.toList ++ rest = name'.toList ++ rest') : name = name' ∧ rest = rest' := by
  -- cut off where the first step starts, both texts give the name and what follows
  have htake := congrArg (List.takeWhile isPlain) h
  have hdrop := congrArg (List.dropWhile isPlain) h
  rw [Text.takeWhile_append_of_stop hname hstop,
    Text.takeWhile_append_of_stop hname' hstop'] at htake
  rw [Text.dropWhile_append_of_stop hname hstop,
    Text.dropWhile_append_of_stop hname' hstop'] at hdrop
  exact ⟨String.toList_inj.1 htake, hdrop⟩

/-- The number of an item is known, and so is what stands behind the closing bracket. -/
theorem eq_of_number_append {i j : Nat} {rest rest' : List Char}
    (h : (toString i).toList ++ ']' :: rest = (toString j).toList ++ ']' :: rest') :
    i = j ∧ rest = rest' := by
  -- no digit is a closing bracket, so both texts can be cut off at the first one
  have hdigits (n : Nat) : ∀ c ∈ (toString n).toList, decide (c ≠ ']') = true := by
    intro c hc
    rw [Nat.toString_eq_ofList_toDigits, String.toList_ofList] at hc
    have hdigit : c.isDigit = true := Nat.isDigit_of_mem_toDigits (by decide) (by decide) hc
    refine decide_eq_true ?_
    rintro rfl
    exact absurd hdigit (by decide)
  have hstop (rest : List Char) : ∀ c, (']' :: rest).head? = some c → decide (c ≠ ']') = false := by
    intro c hc
    obtain rfl := Option.some.inj hc
    rfl
  have htake := congrArg (List.takeWhile fun c => decide (c ≠ ']')) h
  have hdrop := congrArg (List.dropWhile fun c => decide (c ≠ ']')) h
  rw [Text.takeWhile_append_of_stop (hdigits i) (hstop rest),
    Text.takeWhile_append_of_stop (hdigits j) (hstop rest')] at htake
  rw [Text.dropWhile_append_of_stop (hdigits i) (hstop rest),
    Text.dropWhile_append_of_stop (hdigits j) (hstop rest')] at hdrop
  exact ⟨Arguments.toString_injective (String.toList_inj.1 htake), (List.cons.inj hdrop).2⟩

/-- Steps are known from their characters: the first character tells their sort. -/
theorem eq_of_stepChars_eq {steps steps' : List Step} (hplain : ∀ s ∈ steps, s.Plain)
    (hplain' : ∀ s ∈ steps', s.Plain) (h : stepChars steps = stepChars steps') :
    steps = steps' := by
  -- induction on the steps: the first ones are of one sort, and what is left is shorter
  induction steps generalizing steps' with
  | nil =>
    cases steps' with
    | nil => rfl
    | cons s steps' =>
      cases s with
      | child name => rw [stepChars_child] at h; cases h
      | index i => rw [stepChars_index] at h; cases h
  | cons s steps ih =>
    obtain ⟨hs, hsteps⟩ := List.forall_mem_cons.1 hplain
    cases steps' with
    | nil =>
      cases s with
      | child name => rw [stepChars_child] at h; cases h
      | index i => rw [stepChars_index] at h; cases h
    | cons s' steps' =>
      obtain ⟨hs', hsteps'⟩ := List.forall_mem_cons.1 hplain'
      cases s with
      | child name =>
        cases s' with
        | child name' =>
          rw [stepChars_child, stepChars_child] at h
          obtain ⟨rfl, hrest⟩ := eq_of_name_append hs hs' (isPlain_head?_stepChars _)
            (isPlain_head?_stepChars _) (List.cons.inj h).2
          rw [ih hsteps hsteps' hrest]
        | index j =>
          rw [stepChars_child, stepChars_index] at h
          exact absurd (List.cons.inj h).1 (by decide)
      | index i =>
        cases s' with
        | child name' =>
          rw [stepChars_child, stepChars_index] at h
          exact absurd (List.cons.inj h).1 (by decide)
        | index j =>
          rw [stepChars_index, stepChars_index] at h
          obtain ⟨rfl, hrest⟩ := eq_of_number_append (List.cons.inj h).2
          rw [ih hsteps hsteps' hrest]

/-- Paths of plain names are known from their texts. -/
theorem eq_of_text_eq {p q : FieldPath} (hp : p.Plain) (hq : q.Plain) (h : p.text = q.text) :
    p = q := by
  have hchars : p.root.toList ++ stepChars p.steps = q.root.toList ++ stepChars q.steps := by
    rw [← toList_text, ← toList_text, h]
  obtain ⟨hroot, hrest⟩ := eq_of_name_append hp.root hq.root (isPlain_head?_stepChars _)
    (isPlain_head?_stepChars _) hchars
  exact congrArg₂ mk hroot (eq_of_stepChars_eq hp.steps hq.steps hrest)

end Nodewright.FieldPath
