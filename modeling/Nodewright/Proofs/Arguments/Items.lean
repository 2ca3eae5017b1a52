import Nodewright.Arguments
import Nodewright.Proofs.Text.Joined

/-!
# Command lines as lists of items

The arguments of a client are words in a row, and a value may look like a flag. They can be read
without doubt all the same: every item starts with a flag of its own, and is known by its first
word. So it matters in which order the items stand, and not what the values are.

## Key results

- `Item.words`: the words of an item
- `Item.eq_of_flatMap_words`: items of the same forms are known from their words
- `joined_map_injective`: names are known from the value that joins them
- `Item.words_infix`, `mem_given`: where the words of an item stand, and what they are
-/

namespace Nodewright.Arguments

/-- A value that counts only if a condition holds. -/
def onlyIf {α : Type} (holds : Bool) (value : Option α) : Option α :=
  if holds then value else none

/-- A condition that holds leaves the value alone. -/
@[simp] theorem onlyIf_true {α : Type} (value : Option α) : onlyIf true value = value := rfl

/-- A condition that does not hold leaves no value. -/
@[simp] theorem onlyIf_false {α : Type} (value : Option α) : onlyIf false value = none := rfl

/-- A value that is fixed tells whether it is given. -/
@[simp] theorem onlyIf_some_inj {α : Type} {a b : Bool} {value : α} :
    onlyIf a (some value) = onlyIf b (some value) ↔ a = b := by
  cases a <;> cases b <;> simp

/-- Without a value there are no words. -/
@[simp] theorem given_none (flag : String) : given flag none = [] := rfl

/-- With a value there are two words. -/
@[simp] theorem given_some (flag value : String) : given flag (some value) = [flag, value] := rfl

/-- A value that is there under a condition is told under the condition. -/
theorem given_onlyIf (holds : Bool) (flag value : String) :
    given flag (onlyIf holds (some value)) = when holds [flag, value] := by
  cases holds <;> rfl

/-- Where there are values, all of them are told. -/
theorem listed_of_ne_nil {flag : String} {values : List String} (h : values ≠ []) :
    listed flag values = [flag, Text.joinWith "," values] := by
  rw [listed, List.isEmpty_eq_false_iff.2 h]
  rfl

/-- The words of an optional setting are its flag and its value. -/
theorem mem_given {word flag : String} {value : Option String} :
    word ∈ given flag value ↔ (value.isSome ∧ word = flag) ∨ value = some word := by
  cases value <;> simp [eq_comm]

/-- Words are there if their condition holds. -/
theorem mem_when {word : String} {holds : Bool} {words : List String} :
    word ∈ when holds words ↔ holds = true ∧ word ∈ words := by
  cases holds <;> simp [when]

/-! ## Items -/

/-- An item of a command line. -/
inductive Item where
  /-- A flag that is there or not. -/
  | switch (flag : String) (on : Bool)
  /-- A flag with its value, if there is a value. -/
  | setting (flag : String) (value : Option String)

namespace Item

/-- The words of an item. -/
def words : Item → List String
  | switch flag on => when on [flag]
  | setting flag value => given flag value

/-- The flag of an item. -/
def flag : Item → String
  | switch flag _ => flag
  | setting flag _ => flag

/-- An item of the same form that says nothing. -/
def bare : Item → Item
  | switch flag _ => switch flag false
  | setting flag _ => setting flag none

/-- An item that counts only if a condition holds. -/
def limit (holds : Bool) : Item → Item
  | switch flag on => switch flag (holds && on)
  | setting flag value => setting flag (onlyIf holds value)

/-- A switch is one word, or none. -/
@[simp] theorem words_switch (flag : String) (on : Bool) :
    (switch flag on).words = when on [flag] := rfl

/-- A setting is two words, or none. -/
@[simp] theorem words_setting (flag : String) (value : Option String) :
    (setting flag value).words = given flag value := rfl

/-- A condition on a switch is one more thing for it to be on. -/
@[simp] theorem limit_switch (holds : Bool) (flag : String) (on : Bool) :
    (switch flag on).limit holds = switch flag (holds && on) := rfl

/-- A condition on a setting decides over its value. -/
@[simp] theorem limit_setting (holds : Bool) (flag : String) (value : Option String) :
    (setting flag value).limit holds = setting flag (onlyIf holds value) := rfl

/-- Items that count only if a condition holds. -/
def under (holds : Bool) (items : List Item) : List Item := items.map (limit holds)

/-- Items that count only if a condition holds have words only if it holds. -/
theorem flatMap_words_under (holds : Bool) (items : List Item) :
    (under holds items).flatMap words = when holds (items.flatMap words) := by
  -- the condition is asked for each item, or once for all of them
  have hwords (item : Item) : (item.limit holds).words = when holds item.words := by
    cases holds <;> cases item <;> rfl
  simp only [under, List.flatMap_map, hwords]
  cases holds
  · exact List.flatMap_eq_nil_iff.2 fun _ _ => rfl
  · rfl

/-- The words of an item stand in one piece. -/
theorem words_infix {items : List Item} {item : Item} (h : item ∈ items) :
    item.words <:+: items.flatMap words :=
  List.infix_of_mem_flatten (List.mem_map_of_mem h)

/-- Words start with the flag of one of their items. -/
theorem mem_flags_of_head? {items : List Item} {word : String}
    (h : (items.flatMap words).head? = some word) : word ∈ items.map flag := by
  induction items with
  | nil => exact nomatch h
  | cons item rest ih =>
    -- an item that says nothing leaves the first word to the items behind it
    have hrest (h : (rest.flatMap words).head? = some word) :
        word ∈ (item :: rest).map flag := List.mem_cons_of_mem _ (ih h)
    cases item with
    | switch flag on =>
      cases on with
      | false => exact hrest h
      | true => exact Option.some.inj h ▸ List.mem_cons_self
    | setting flag value =>
      cases value with
      | none => exact hrest h
      | some value => exact Option.some.inj h ▸ List.mem_cons_self

/-- The first item is known from the words, as long as the words behind it do not start with its
    flag. -/
theorem eq_of_words_append {x y : Item} {r s : List String} (hform : x.bare = y.bare)
    (hr : r.head? ≠ some x.flag) (hs : s.head? ≠ some x.flag)
    (h : x.words ++ r = y.words ++ s) : x = y ∧ r = s := by
  -- both items are switches or both are settings, with one flag; an item that is not there leaves
  -- words that cannot start with this flag
  cases x with
  | switch flag on =>
    cases y with
    | setting => exact nomatch hform
    | switch flag' on' =>
      obtain rfl : flag = flag' := (Item.switch.inj hform).1
      cases on with
      | false =>
        cases on' with
        | false => exact ⟨rfl, h⟩
        | true => exact absurd (congrArg List.head? h) hr
      | true =>
        cases on' with
        | false => exact absurd (congrArg List.head? h).symm hs
        | true => exact ⟨rfl, (List.cons.inj h).2⟩
  | setting flag value =>
    cases y with
    | switch => exact nomatch hform
    | setting flag' value' =>
      obtain rfl : flag = flag' := (Item.setting.inj hform).1
      cases value with
      | none =>
        cases value' with
        | none => exact ⟨rfl, h⟩
        | some value' => exact absurd (congrArg List.head? h) hr
      | some value =>
        cases value' with
        | none => exact absurd (congrArg List.head? h).symm hs
        | some value' =>
          obtain ⟨rfl, hrest⟩ := List.cons.inj (List.cons.inj h).2
          exact ⟨rfl, hrest⟩

/-- Items of the same forms are known from their words, if each of them has its own flag. -/
theorem eq_of_flatMap_words {xs ys : List Item} (hforms : xs.map bare = ys.map bare)
    (hflags : (xs.map flag).Nodup) (h : xs.flatMap words = ys.flatMap words) : xs = ys := by
  have hbare : flag ∘ bare = flag := funext fun item => by cases item <;> rfl
  -- induction on both lists, which are of one length since their forms agree
  induction xs generalizing ys with
  | nil => exact (List.map_eq_nil_iff.1 hforms.symm).symm
  | cons x xs ih =>
    cases ys with
    | nil => exact nomatch hforms
    | cons y ys =>
      obtain ⟨hform, hforms'⟩ := List.cons.inj hforms
      obtain ⟨hnew, hflags'⟩ := List.nodup_cons.1 hflags
      have hsame : ys.map flag = xs.map flag := by
        rw [← hbare, ← List.map_map, ← List.map_map, hforms']
      -- the items behind the first one have other flags
      obtain ⟨rfl, hrest⟩ := eq_of_words_append hform
        (fun h => hnew (mem_flags_of_head? h))
        (fun h => hnew (hsame ▸ mem_flags_of_head? h)) h
      rw [ih hforms' hflags' hrest]

end Item

/-! ## Values -/

/-- Texts with commas between them, if there are any. -/
def joined (values : List String) : Option String :=
  if values.isEmpty then none else some (Text.joinWith "," values)

/-- A list is told as one value, or not at all. -/
theorem given_joined (flag : String) (values : List String) :
    given flag (joined values) = listed flag values := by
  cases values <;> rfl

/-- Lists with the same value are joined to the same text; an empty one is joined to the empty text.
    -/
theorem joinWith_eq_of_joined {xs ys : List String} (h : joined xs = joined ys) :
    Text.joinWith "," xs = Text.joinWith "," ys := by
  cases xs <;> cases ys <;> simp_all [joined]

/-- Names without commas are known from the value that joins them. -/
theorem joined_map_injective {α : Type} {name : α → String} (hname : Function.Injective name)
    (hcomma : ∀ a, ',' ∉ (name a).toList) {xs ys : List α}
    (h : joined (xs.map name) = joined (ys.map name)) : xs = ys := by
  -- a comma within a name could not be told from one between two names
  have hwords (zs : List α) : ∀ word ∈ zs.map name, ',' ∉ word.toList := by
    intro word hword
    obtain ⟨a, -, rfl⟩ := List.mem_map.1 hword
    exact hcomma a
  cases xs with
  | nil => cases ys <;> simp_all [joined]
  | cons x xs =>
    cases ys with
    | nil => simp [joined] at h
    | cons y ys =>
      exact (List.map_inj_right hname).1 <|
        Text.joinWith_injective (hwords _) (hwords _) (by simp) (by simp) (joinWith_eq_of_joined h)

/-- Numbers are known from their decimal digits. -/
theorem toString_injective : Function.Injective (toString : Nat → String) := by
  intro m n h
  rw [Nat.toString_eq_ofList_toDigits, Nat.toString_eq_ofList_toDigits, String.ofList_inj] at h
  rw [← Nat.ofDigitChars_ten_toDigits (n := m), h, Nat.ofDigitChars_ten_toDigits]

/-- Ports are known from their decimal digits. -/
theorem port_injective : Function.Injective port :=
  fun _ _ h => UInt16.toNat_inj.1 (toString_injective h)

/-! ## Values that are no flags -/

/-- A word that starts with a dash, as all flags do. -/
def IsFlag (word : String) : Prop := word.toList.head? = some '-'

instance (word : String) : Decidable (IsFlag word) := inferInstanceAs (Decidable (_ = _))

/-- A number is written in digits only. -/
theorem not_isFlag_toString (n : Nat) : ¬ IsFlag (toString n) := by
  intro h
  rw [IsFlag, Nat.toString_eq_ofList_toDigits, String.toList_ofList] at h
  have hdigit : '-'.isDigit = true :=
    Nat.isDigit_of_mem_toDigits (by decide) (by decide) (List.mem_of_head? h)
  exact absurd hdigit (by decide)

/-- Texts with commas between them start as the first of them does. -/
theorem not_isFlag_joinWith {first : String} (rest : List String) (hne : first ≠ "")
    (h : ¬ IsFlag first) : ¬ IsFlag (Text.joinWith "," (first :: rest)) := by
  cases rest with
  | nil => exact h
  | cons second rest =>
    -- the first text is not empty, so the joined text starts with its first character
    have hsome : first.toList.head?.isSome := by
      simpa [List.isSome_head?] using hne
    obtain ⟨c, hc⟩ := Option.isSome_iff_exists.1 hsome
    simpa [IsFlag, hc] using h

end Nodewright.Arguments
