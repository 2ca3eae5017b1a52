import Nodewright.Proofs.Execution.CommandLines

/-!
# Imported accounts

An imported account is a key with its password, and says nothing of its address. The clients know an
address only from the account that a node is paid to, and unlock that one: Geth as part of mining,
Parity whenever it is given. So whether an imported account is put to use depends on the client, on
mining and on the account to be paid to, and the rules let only some combinations pass.

## Key results

- `Launch.Unlocks`: a client is told to unlock an account
- `Geth.unlockItems_subset`, `Parity.unlockItems_subset`: which account that is
- `Geth.unlock_notMem_args`, `Parity.unlock_notMem_args`: no word of it without such an account
- `Network.unlocks_of_admission`: a node that imports an account unlocks one exactly if it mines
-/

namespace Nodewright

open Arguments

/-- A client is told to unlock an account, and where the password is. -/
structure Launch.Unlocks (l : Launch) (account : String) : Prop where
  account : ["--unlock", account] <:+: l.args
  password : ["--password", Home.secret l.homeDir "account.password"] <:+: l.args

namespace Execution

variable {c : Chain} {n : Node}

/-! ## Told to unlock -/

/-- The items that unlock the imported account of a node, if the node has an account to unlock. -/
def Node.unlockItems (home : String) (n : Node) : List Item :=
  [.setting "--unlock" n.unlocked,
    .setting "--password" (n.unlocked.map fun _ => Home.secret home "account.password")]

/-- The account that an imported key belongs to is the one that the node is paid to. -/
theorem Node.unlocked_of_imported (himported : n.importedAccount.isSome) :
    n.unlocked = n.coinbase := by
  rw [Node.unlocked, himported, onlyIf_true]

/-- What is unlocked counts for miners only, and only they have something to unlock. -/
theorem Node.Admissible.onlyIf_unlocked (h : n.Admissible c) :
    onlyIf n.miner n.unlocked = n.unlocked := by
  cases himported : n.importedAccount.isSome with
  | true => rw [Node.unlocked_of_imported himported, h.onlyIf_coinbase]
  | false =>
    rw [Node.unlocked, himported, onlyIf_false]
    cases n.miner <;> rfl

/-- A command line with the items that unlock an account tells the client to. -/
theorem unlocks_of_subset {l : Launch} {items : List Item} {account : String}
    (hwords : items.flatMap Item.words = l.args) (hitems : n.unlockItems l.homeDir ⊆ items)
    (haccount : n.unlocked = some account) : l.Unlocks account := by
  have hunlock := Item.words_infix (hitems List.mem_cons_self)
  have hpassword := Item.words_infix (hitems (List.mem_cons_of_mem _ List.mem_cons_self))
  rw [hwords, haccount] at hunlock hpassword
  exact ⟨hunlock, hpassword⟩

/-- Geth unlocks the account of a miner. -/
theorem Geth.unlockItems_subset (h : n.Admissible c) : n.unlockItems home ⊆ items c n := by
  have hpassword (file : String) :
      onlyIf n.miner (n.unlocked.map fun _ => file) = n.unlocked.map fun _ => file := by
    rw [← h.onlyIf_unlocked]
    cases n.miner <;> rfl
  -- the items stand among those of mining, which a miner keeps
  have hitems : Item.under n.miner (n.unlockItems home) = n.unlockItems home := by
    simp [Item.under, Node.unlockItems, hpassword, h.onlyIf_unlocked]
  have hmining : n.unlockItems home ⊆ miningItems n := by
    rw [← hitems]
    exact List.subset_cons_of_subset _ (List.subset_cons_self _ _)
  intro item hitem
  simp [items, hmining hitem]

/-- Parity unlocks the account of a node, whether it mines or not. -/
theorem Parity.unlockItems_subset : n.unlockItems home ⊆ items c n := by
  have haccount : n.unlockItems home ⊆ accountItems n := List.subset_cons_self _ _
  intro item hitem
  simp [items, haccount hitem]

/-! ## Not told to -/

/-- The address of a node starts with the name of its protocol. -/
theorem head?_of_isEnode {url : String} (h : Format.isEnode url = true) :
    url.toList.head? = some 'e' := by
  simp only [Format.isEnode, Format.behind?] at h
  split at h
  · next rest hbehind =>
    split at hbehind
    · next hstart =>
      obtain ⟨rest, hrest⟩ := List.isPrefixOf_iff_prefix.1 hstart
      rw [← hrest]
      rfl
    · cases hbehind
  · cases h

/-- The value for the nodes to meet the network through is no flag. -/
theorem Node.Admissible.not_isFlag_bootnodes (h : n.Admissible c) {value : String}
    (hvalue : joined n.bootnodes = some value) : ¬ IsFlag value := by
  -- the value starts with the first address, and that with a letter
  cases hurls : n.bootnodes with
  | nil => simp [hurls, joined] at hvalue
  | cons url urls =>
    have hurl := head?_of_isEnode (h.bootnodes url (hurls ▸ List.mem_cons_self))
    obtain rfl : Text.joinWith "," (url :: urls) = value := by simpa [hurls, joined] using hvalue
    refine not_isFlag_joinWith urls ?_ ?_
    · rintro rfl
      simp at hurl
    · simp [IsFlag, hurl]

/-- The identity of a chain is no flag. -/
theorem Chain.not_isFlag_idText {value : String} (h : c.idText = some value) : ¬ IsFlag value := by
  rw [Chain.idText] at h
  cases hjoin : c.join with
  | some network => simp [hjoin] at h
  | none =>
    obtain ⟨id, -, rfl⟩ := Option.map_eq_some_iff.1 (by simpa [hjoin] using h)
    exact not_isFlag_toString id.toNat

/-- The values that all clients are told are no word for unlocking an account. -/
theorem Node.Admissible.values_ne_unlock (h : n.Admissible c) :
    c.idText ≠ some "--unlock" ∧ joined n.bootnodes ≠ some "--unlock" ∧
      ∀ p, port p ≠ "--unlock" := by
  have hflag : IsFlag "--unlock" := by decide
  exact ⟨fun hid => Chain.not_isFlag_idText hid hflag,
    fun hbootnodes => h.not_isFlag_bootnodes hbootnodes hflag,
    fun p hport => not_isFlag_toString p.toNat (by rwa [← hport, port] at hflag)⟩

/-- Geth is told nothing of unlocking if there is no account to be paid to. The interfaces are
    closed, so no word of them can be taken for it either. -/
theorem Geth.unlock_notMem_args (h : n.Admissible c) (himported : n.importedAccount.isSome)
    (hcoinbase : n.coinbase = none) : "--unlock" ∉ args c n := by
  obtain ⟨-, hrpc, hws, hgraphql⟩ := h.imported himported
  obtain ⟨hid, hbootnodes, hport⟩ := h.values_ne_unlock
  have hminer : n.miner = false := by
    rw [Bool.eq_false_iff, Ne, h.miner, hcoinbase]
    simp
  have hdata : "--unlock" ≠ Home.data home := by decide
  -- word by word, nothing else on the command line can be the flag
  have hnetwork : ∀ network ∈ flagged, "--unlock" ≠ "--" ++ network.name := by decide
  have hkey (given : Bool) :
      onlyIf given (some (Home.secret home "nodekey")) ≠ some "--unlock" := by
    cases given <;> decide
  have hsync (mode : SyncMode) : mode.name ≠ "--unlock" := by cases mode <;> decide
  have hlevel (v : Verbosity) : level v ≠ "--unlock" := by cases v <;> decide
  simp only [flagged, List.forall_mem_cons] at hnetwork
  rw [← flatMap_items]
  simp [items, chainItems, networkItems, miningItems, rpcItems, wsItems, graphqlItems, flagged,
    CallEndpoint.items, Item.under, mem_given, mem_when, hrpc, hws, hgraphql, hminer, hdata, hid,
    hbootnodes, hport, hnetwork, hkey, hsync, hlevel]

/-- Neither is Parity. -/
theorem Parity.unlock_notMem_args (h : n.Admissible c) (himported : n.importedAccount.isSome)
    (hcoinbase : n.coinbase = none) : "--unlock" ∉ args c n := by
  obtain ⟨-, hrpc, hws, -⟩ := h.imported himported
  obtain ⟨hid, hbootnodes, hport⟩ := h.values_ne_unlock
  have hunlocked : n.unlocked = none := by rw [Node.unlocked_of_imported himported, hcoinbase]
  have hdata : "--unlock" ≠ Home.data home := by decide
  -- word by word again; Parity names the network in a value
  have hchain (join : Option PublicNetwork) : "--unlock" ≠ chainValue join := by
    cases join with
    | none => decide
    | some network => cases network <;> decide
  have hkey (given : Bool) :
      onlyIf given (some ("$(" ++ nodeKeyVariable ++ ")")) ≠ some "--unlock" := by
    cases given <;> decide
  have hlevel (v : Verbosity) : v.name ≠ "--unlock" := by cases v <;> decide
  rw [← flatMap_items]
  simp [items, chainItems, networkItems, accountItems, rpcItems, wsItems, CallEndpoint.items,
    Item.under, mem_given, mem_when, hrpc, hws, hunlocked, hdata, hid, hbootnodes, hport, hchain,
    hkey, hlevel]

/-! ## Admitted networks -/

namespace Network

/-- A node of an admitted network that imports an account is told to unlock the account that it is
    paid to, which has the form of one, with the password from its file. A node that is not paid,
    that is, one that does not mine, is told nothing of unlocking. -/
theorem unlocks_of_admission {images : Image.Overrides} {old : Option Manifest} {x : Manifest}
    {a : Admitted} {s : Network} {w : Workload} (ha : x.admission images old = .ok a)
    (hs : a.manifest.spec = .network s) (hn : (n, w) ∈ s.nodes.zip a.workloads)
    (himported : n.importedAccount.isSome) :
    (n.miner = true ↔ n.coinbase.isSome) ∧
    (∀ account, n.coinbase = some account →
      Format.isAccountAddress account = true ∧ w.launch.Unlocks account) ∧
    (n.coinbase = none → "--unlock" ∉ w.launch.args) := by
  obtain ⟨-, hadmissible, -, hlaunch⟩ := node_of_admission ha hs hn
  rw [hlaunch]
  refine ⟨hadmissible.miner, fun account haccount => ⟨hadmissible.coinbase account haccount, ?_⟩,
    fun hnone => ?_⟩
  · have hunlocked : n.unlocked = some account := by
      rw [Node.unlocked_of_imported himported, haccount]
    -- Geth and Parity are the clients that can import an account
    rcases (hadmissible.imported himported).1 with hgeth | hparity
    · rw [hgeth]
      exact unlocks_of_subset (Geth.flatMap_items s.chain n)
        (Geth.unlockItems_subset hadmissible) hunlocked
    · rw [hparity]
      exact unlocks_of_subset (Parity.flatMap_items s.chain n) Parity.unlockItems_subset hunlocked
  · rcases (hadmissible.imported himported).1 with hgeth | hparity
    · rw [hgeth]
      exact Geth.unlock_notMem_args hadmissible himported hnone
    · rw [hparity]
      exact Parity.unlock_notMem_args hadmissible himported hnone

/-- A network on a public chain with one node that imports an account, and maybe is paid to one. -/
def importing (client : Client) (coinbase : Option String) : Network where
  chain := ⟨none, some .rinkeby, none, none⟩
  nodes := [{
    name := "node", client, image := none, bootnode := false, nodekeySecretName := none
    bootnodes := [], miner := coinbase.isSome, coinbase
    importedAccount := some ⟨"key", "password"⟩, syncMode := none, p2pPort := none
    rpc := ⟨.off, []⟩, ws := ⟨.off, []⟩, graphql := .off
    hosts := [], corsDomains := [], logging := none, resources := .none }]

/-- A miner of Geth unlocks the account that it mines for. -/
theorem unlocks_of_admission_importing :
    let account := "0xd2c21213027cbf4d46c16b55fa98e5252b048706"
    let s := importing .geth (some account)
    ∃ a w, Manifest.admission .none none ⟨"net", .network s⟩ = .ok a ∧ a.workloads = [w] ∧
      w.launch.Unlocks account := by
  intro account s
  have ha : Manifest.admission .none none ⟨"net", .network s⟩ = .ok _ :=
    Manifest.admission_eq_ok_iff.2 ⟨by decide +kernel, rfl⟩
  obtain ⟨-, hunlocks, -⟩ := unlocks_of_admission ha rfl List.mem_cons_self rfl
  exact ⟨_, _, ha, rfl, (hunlocks account rfl).2⟩

/-- A node that does not mine is admitted with an imported account, and is not told to unlock
    any. -/
theorem exists_import_without_unlock :
    ∃ a w n, Manifest.admission .none none ⟨"net", .network (importing .geth none)⟩ = .ok a ∧
      a.manifest.spec = .network ⟨(importing .geth none).chain, [n]⟩ ∧ a.workloads = [w] ∧
      n.importedAccount.isSome ∧ ¬ ∃ account, w.launch.Unlocks account := by
  refine ⟨_, _, _, Manifest.admission_eq_ok_iff.2 ⟨by decide +kernel, rfl⟩, rfl, rfl, rfl, ?_⟩
  rintro ⟨account, hunlocks⟩
  exact absurd (hunlocks.account.subset List.mem_cons_self) (by decide +kernel)

end Network

end Execution

end Nodewright
