import Mathlib.Data.List.Nodup
import Mathlib.Data.List.TFAE
import Mathlib.Tactic.TFAE
import Nodewright.Workload

/-!
# The variables of an environment

The environment of a node is made of a list of settings, some of which are there only if something
is given. As the last setting of a name counts, a setting may be lost. It is not where no name comes
twice, and that can be seen from the list of all names which the settings may have.

## Key results

- `lookupEntry_eq_some_iff`: where no key comes twice, what stands there is what is found
- `Environment.Named`: the names of settings come from a list, in its order
- `Environment.Named.get?_ofList_eq_some_iff`: which value a variable has
- `Environment.Named.get?_ofList_eq_none`: which variables are not there
- `Environment.Table`: what each variable of an environment shall say, with each name once
- `Environment.Table.tells_ofList`: an environment that is made from a table says just that
- `Environment.identifies_of_get?`: a name that comes with its key
-/

namespace Nodewright

/-- Where no key comes twice, the entries are what is found under their keys. -/
theorem lookupEntry_eq_some_iff {α : Type} {key : String} {value : α} {entries : List (String × α)}
    (h : (entries.map Prod.fst).Nodup) :
    lookupEntry key entries = some value ↔ (key, value) ∈ entries := by
  -- induction on the entries, of which the first one with the key is found
  induction entries with
  | nil => simp
  | cons e rest ih =>
    obtain ⟨k, v⟩ := e
    obtain ⟨hk, hrest⟩ := List.nodup_cons.1 h
    rw [lookupEntry_cons]
    by_cases hkey : k = key
    · -- there is no second entry with the key of the first one
      have hnone : (key, value) ∉ rest := fun hmem =>
        hk (List.mem_map.2 ⟨(key, value), hmem, hkey.symm⟩)
      simp [hkey, hnone, eq_comm]
    · simp [hkey, Ne.symm hkey, ih hrest]

namespace Environment

@[simp] theorem given_none (name : String) : given name none = [] := rfl

@[simp] theorem given_some (name : String) (value : EnvValue) :
    given name (some value) = [(name, value)] := rfl

/-- The setting that is last of its name is the one that counts. -/
theorem get?_ofList (settings : List (String × EnvValue)) (name : String) :
    (ofList settings).get? name = lookupEntry name settings.reverse := by
  rw [ofList, Keyed.ofEntries, Keyed.get?_insertAll, Keyed.get?_empty, Option.or_none]

/-- Settings have some of the names, in the order of these, and none of them more often. -/
def Named (settings : List (String × EnvValue)) (names : List String) : Prop :=
  (settings.map Prod.fst).Sublist names

namespace Named

variable {settings others : List (String × EnvValue)} {names more : List String}

protected theorem nil : Named [] names := List.nil_sublist names

/-- One setting more has the name in front. -/
theorem cons (name : String) (value : EnvValue) (h : Named settings names) :
    Named ((name, value) :: settings) (name :: names) :=
  List.Sublist.cons_cons name h

/-- Settings behind others have the names behind theirs. -/
theorem append (h : Named settings names) (h' : Named others more) :
    Named (settings ++ others) (names ++ more) := by
  rw [Named, List.map_append]
  exact List.Sublist.append h h'

/-- A variable that may be missing has one name. -/
theorem given (name : String) (value : Option EnvValue) :
    Named (Environment.given name value) [name] := by
  cases value with
  | none => exact .nil
  | some value => exact .cons name value .nil

/-- Where all names differ, each setting counts. -/
theorem get?_ofList_eq_some_iff (h : Named settings names) (hnames : names.Nodup) {name : String}
    {value : EnvValue} :
    (ofList settings).get? name = some value ↔ (name, value) ∈ settings := by
  -- the last setting of a name is looked for first, so the order is turned round
  have hnodup : (settings.reverse.map Prod.fst).Nodup := by
    rw [List.map_reverse, List.nodup_reverse]
    exact hnames.sublist h
  rw [get?_ofList, lookupEntry_eq_some_iff hnodup, List.mem_reverse]

/-- There is no variable of another name. -/
theorem get?_ofList_eq_none (h : Named settings names) {name : String} (hname : name ∉ names) :
    (ofList settings).get? name = none := by
  rw [get?_ofList, lookupEntry_eq_none_iff, List.map_reverse, List.mem_reverse]
  exact fun hmem => hname (h.subset hmem)

end Named

/-! ## Tables of variables -/

/-- The variables that an environment may have, each with its value if there is one. No name stands
    twice, so no value can be lost to another one. -/
structure Table where
  rows : List (String × Option EnvValue)
  distinct : (rows.map Prod.fst).Nodup

namespace Table

/-- The names of the variables of a table. -/
def names (t : Table) : List String := t.rows.map Prod.fst

/-- The settings that a table stands for. -/
def settings (t : Table) : List (String × EnvValue) := t.rows.flatMap fun row => given row.1 row.2

/-- An environment says what a table does: each variable has the value of its row, or is not there
    if that has none, and there are no others. -/
structure Tells (t : Table) (env : Environment) : Prop where
  own : ∀ row ∈ t.rows, env.get? row.1 = row.2
  others : ∀ name, name ∉ t.names → env.get? name = none

/-- The value of a variable, by its row. -/
theorem Tells.get?_eq {t : Table} {env : Environment} (h : t.Tells env) {name : String}
    {value : Option EnvValue} (hrow : (name, value) ∈ t.rows) : env.get? name = value :=
  h.own (name, value) hrow

/-- The settings of a table are its rows that have a value. -/
theorem mem_settings {t : Table} {name : String} {value : EnvValue} :
    (name, value) ∈ t.settings ↔ (name, some value) ∈ t.rows := by
  -- a row makes at most one setting
  have hgiven (row : String × Option EnvValue) :
      (name, value) ∈ given row.1 row.2 ↔ row = (name, some value) := by
    obtain ⟨rowName, none | rowValue⟩ := row <;> simp [eq_comm]
  simp [settings, hgiven]

/-- The settings of a table have its names. -/
theorem named_settings (t : Table) : Named t.settings t.names := by
  rw [settings, names]
  generalize t.rows = rows
  -- each row adds its name, whether or not there is a setting for it
  induction rows with
  | nil => exact .nil
  | cons row rest ih => exact .append (.given row.1 row.2) ih

/-- An environment that is made from the settings of a table says what the table does. -/
theorem tells_ofList (t : Table) : t.Tells (ofList t.settings) := by
  refine ⟨fun row hrow => Option.ext fun value => ?_,
    fun name => t.named_settings.get?_ofList_eq_none⟩
  rw [t.named_settings.get?_ofList_eq_some_iff t.distinct, mem_settings]
  constructor
  · -- there is no second row with this name
    intro hmem
    exact congrArg Prod.snd (List.inj_on_of_nodup_map t.distinct hrow hmem rfl)
  · intro hvalue
    rwa [← hvalue]

end Table

/-! ## Identities -/

/-- A variable with the identity of a node is there iff the node has an identity, iff there is a
    secret with the key of it, and iff another variable takes the key from that secret. -/
def Identifies (env : Environment) (idName keyName : String) (id secret : Option String) : Prop :=
  [(env.get? idName).isSome = true, id.isSome = true, secret.isSome = true,
    ∃ name, secret = some name ∧ env.get? keyName = some (.secret name "key")].TFAE

/-- Two settings come together if each of them demands the other. -/
theorem isSome_eq_of_demands {α β : Type} {a : Option α} {b : Option β}
    (h : (a.isSome && b.isNone) = false) (h' : (b.isSome && a.isNone) = false) :
    a.isSome = b.isSome := by
  cases a <;> cases b <;> simp_all

/-- Where an identity comes with its key, neither is lost if each variable says what its own setting
    does. -/
theorem identifies_of_get? {env : Environment} {idName keyName : String} {id secret : Option String}
    (hid : env.get? idName = id.map .literal)
    (hkey : env.get? keyName = secret.map fun name => .secret name "key")
    (hpaired : id.isSome = secret.isSome) : env.Identifies idName keyName id secret := by
  rw [Identifies]
  -- the variable is there with the identity, that with the secret, and the key with the secret
  tfae_have 1 ↔ 2 := by rw [hid, Option.isSome_map]
  tfae_have 2 ↔ 3 := by rw [hpaired]
  tfae_have 3 ↔ 4 := by cases secret <;> simp [hkey]
  tfae_finish

end Environment

end Nodewright
