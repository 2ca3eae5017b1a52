import Mathlib.Data.List.Basic
import Nodewright.Proofs.Admission.History
import Nodewright.Proofs.Arguments.Items
import Nodewright.Proofs.Capability
import Nodewright.Proofs.Url.Place

/-!
# Endpoints of validators

A validator asks the beacon nodes behind its endpoints. What its client is told is made from the
endpoints that can be read as addresses, so an endpoint that cannot would be lost without a word;
and the clients that ask a single beacon node look at the first address only, so further ones would
be lost as well. Three rules together keep that from happening.

Such a client is told the host and the port of the address. Most schemes have no port of their own,
and then it is told the host alone; an address may also be without a host.

## Key results

- `Validator.EndpointsFit`: what the rules on endpoints amount to
- `Validator.EndpointsFit.map_ofText?`: every endpoint is an address, in its place
- `Validator.endpoints_of_admission`: no endpoint of an admitted validator is lost
- `Client.dialling`, `Validator.dials_of_admission`: what a client that asks one node is told of it
- `Validator.exists_admission_without_port`: not every endpoint has a host and a port
-/

namespace Nodewright.Beacon

open Arguments

/-- Where every item has a value, none of them is left out. -/
private theorem map_eq_map_some_filterMap {α β : Type} {value : α → Option β} {items : List α}
    (h : ∀ a ∈ items, (value a).isSome) : items.map value = (items.filterMap value).map some := by
  induction items with
  | nil => rfl
  | cons a rest ih =>
    obtain ⟨ha, hrest⟩ := List.forall_mem_cons.1 h
    obtain ⟨b, hb⟩ := Option.isSome_iff_exists.1 ha
    rw [List.map_cons, List.filterMap_cons_some hb, List.map_cons, hb, ih hrest]

/-- How a client that asks a single beacon node is told the host and the port of its address. -/
def Client.dialling (client : Client) (scheme host : String) (p : Option UInt16) : List String :=
  match client with
  | prysm => ["--beacon-rpc-provider", p.elim host fun p => host ++ ":" ++ port p]
  | nimbus =>
    assigned "--rpc-address" (scheme ++ "://" ++ host) ::
      p.toList.map fun p => assigned "--rpc-port" (port p)
  | teku | lighthouse => []

namespace Validator

variable {v : Validator}

/-! ## The rules on endpoints -/

/-- The endpoints are some addresses, and only Lighthouse has more than one. -/
structure EndpointsFit (v : Validator) : Prop where
  ne_nil : v.beaconEndpoints ≠ []
  addresses : ∀ endpoint ∈ v.beaconEndpoints, (Url.ofText? endpoint).isSome
  single : v.client ≠ .lighthouse → v.beaconEndpoints.length ≤ 1

/-- The rule on an endpoint asks for an address. -/
theorem addressRule_eq_nil_iff {place : FieldPath} {s : String} :
    addressRule place s = [] ↔ (Url.ofText? s).isSome := by
  simp [addressRule]

/-- The registry and the rule agree on Lighthouse: no other client asks several beacon nodes. -/
theorem supports_multipleBeaconEndpoints_iff :
    v.supports .multipleBeaconEndpoints = true ↔ v.client = .lighthouse := by
  have hclients : validatorCapabilities.supporting .multipleBeaconEndpoints = [.lighthouse] := by
    decide
  rw [supports, Registry.supports_iff_mem_supporting (by decide), hclients, List.mem_singleton]

/-- Three rules speak of endpoints, and together they ask for this. -/
theorem endpointsFit_of_problems_eq_nil (h : v.problems = []) : v.EndpointsFit := by
  simp only [problems, List.append_eq_nil_iff] at h
  -- the other rules say nothing of endpoints
  obtain ⟨⟨⟨⟨⟨⟨⟨⟨-, hrequired⟩, hformat⟩, hmultiple⟩, -⟩, -⟩, -⟩, -⟩, -⟩ := h
  refine ⟨?_, ?_, ?_⟩
  · simpa [endpointsRequired] using hrequired
  · rw [endpointsFormat, Report.flatMap_zipIdx_eq_nil_iff fun _ _ => addressRule_eq_nil_iff]
      at hformat
    exact hformat
  · intro hclient
    rw [multipleEndpoints, Report.when_eq_nil, Bool.and_eq_false_imp] at hmultiple
    by_contra hlong
    have hunsupported := hmultiple (by simpa using hlong)
    rw [Bool.not_eq_false', supports_multipleBeaconEndpoints_iff] at hunsupported
    exact hclient hunsupported

namespace EndpointsFit

/-- Every endpoint is an address: the addresses are those of the endpoints, one for each and in
    their order. -/
theorem map_ofText? (h : v.EndpointsFit) :
    v.beaconEndpoints.map Url.ofText? = v.beaconUrls.map some :=
  map_eq_map_some_filterMap h.addresses

/-- There is an address to tell the client of. -/
theorem beaconTexts_ne_nil (h : v.EndpointsFit) : v.beaconTexts ≠ [] := by
  intro hnil
  have hmap := h.map_ofText?
  rw [List.map_eq_nil_iff.1 hnil, List.map_nil, List.map_eq_nil_iff] at hmap
  exact h.ne_nil hmap

/-- A client that asks a single beacon node has one endpoint, which is an address. -/
theorem exists_single (h : v.EndpointsFit) (hclient : v.client ≠ .lighthouse) :
    ∃ endpoint url, v.beaconEndpoints = [endpoint] ∧ Url.ofText? endpoint = some url ∧
      v.beaconUrls = [url] := by
  have hlength : v.beaconEndpoints.length = 1 :=
    Nat.le_antisymm (h.single hclient) (List.length_pos_iff.2 h.ne_nil)
  obtain ⟨endpoint, hsingle⟩ := List.length_eq_one_iff.1 hlength
  have hmap := h.map_ofText?
  rw [hsingle, List.map_singleton] at hmap
  obtain ⟨url, hurls, hurl⟩ := List.map_eq_singleton_iff.1 hmap.symm
  exact ⟨endpoint, url, hsingle, hurl.symm, hurls⟩

end EndpointsFit

/-- The endpoints of an admitted validator keep the rules, and its client is started with them. -/
theorem of_admission {images : Image.Overrides} {old : Option Manifest} {name : String}
    {a : Admitted} (h : Manifest.admission images old ⟨name, .validator v⟩ = .ok a) :
    v.EndpointsFit ∧
      ∃ w, a.workloads = [w] ∧ w.launch = v.client.validatorLaunch (v.fill images) := by
  have hrules : (v.fill images).problems = [] := (Manifest.problems_eq_nil_of_admission h).2
  obtain ⟨-, rfl⟩ := Manifest.admission_eq_ok_iff.1 h
  -- filling leaves the client and the endpoints alone
  have hfit : (v.fill images).EndpointsFit := endpointsFit_of_problems_eq_nil hrules
  exact ⟨⟨hfit.ne_nil, hfit.addresses, hfit.single⟩, _, rfl, rfl⟩

/-! ## Lists of addresses -/

/-- Teku is told all addresses. -/
theorem teku_infix (h : v.beaconTexts ≠ []) :
    ["--beacon-node-api-endpoints", Text.joinWith "," v.beaconTexts] <:+:
      Teku.validatorArgs v := by
  -- what stands in front is the same for every validator
  rw [← listed_of_ne_nil h]
  refine ⟨["validator-client", "--network", v.network, "--data-path", Home.data Teku.home], ?_⟩
  simp only [Teku.validatorArgs, List.append_assoc]
  exact ⟨_, rfl⟩

/-- Lighthouse is told all addresses. -/
theorem lighthouse_infix (h : v.beaconTexts ≠ []) :
    ["--beacon-nodes", Text.joinWith "," v.beaconTexts] <:+: Lighthouse.validatorArgs v := by
  rw [← listed_of_ne_nil h]
  refine ⟨["--datadir", Home.data Lighthouse.home, "--network", v.network,
    "--init-slashing-protection"], ?_⟩
  simp only [Lighthouse.validatorArgs, List.append_assoc]
  exact ⟨_, rfl⟩

/-- No endpoint of an admitted validator is lost: every endpoint is an address, the clients that
    take a list of addresses are told all of them, and every client but Lighthouse has a single
    endpoint. -/
theorem endpoints_of_admission {images : Image.Overrides} {old : Option Manifest} {name : String}
    {a : Admitted} (h : Manifest.admission images old ⟨name, .validator v⟩ = .ok a) :
    v.beaconEndpoints.map Url.ofText? = v.beaconUrls.map some ∧
      (v.client ≠ .lighthouse → ∃ endpoint, v.beaconEndpoints = [endpoint]) ∧
      ∃ w, a.workloads = [w] ∧
        (v.client = .teku →
          ["--beacon-node-api-endpoints", Text.joinWith "," (v.beaconUrls.map Url.text)] <:+:
            w.launch.args) ∧
        (v.client = .lighthouse →
          ["--beacon-nodes", Text.joinWith "," (v.beaconUrls.map Url.text)] <:+:
            w.launch.args) := by
  obtain ⟨hfit, w, hworkloads, hlaunch⟩ := of_admission h
  have htexts : (v.fill images).beaconTexts ≠ [] := hfit.beaconTexts_ne_nil
  refine ⟨hfit.map_ofText?, fun hclient => ?_, w, hworkloads, fun hteku => ?_,
    fun hlighthouse => ?_⟩
  · obtain ⟨endpoint, -, hsingle, -, -⟩ := hfit.exists_single hclient
    exact ⟨endpoint, hsingle⟩
  · rw [hlaunch, hteku]
    exact teku_infix htexts
  · rw [hlaunch, hlighthouse]
    exact lighthouse_infix htexts

/-- A validator on Mainnet that asks the beacon nodes behind the given endpoints. -/
def asking (client : Client) (endpoints : List String) : Validator where
  client
  image := none
  network := "mainnet"
  beaconEndpoints := endpoints
  graffiti := none
  feeRecipient := none
  keystores := []
  walletPasswordSecret := onlyIf (client = .prysm) (some "wallet")
  certSecretName := none
  logging := none
  resources := .none

/-- Lighthouse is told two beacon nodes, in the canonical form of their addresses. -/
theorem endpoints_of_admission_lighthouse :
    ∃ a w, Manifest.admission .none none
        ⟨"v", .validator (asking .lighthouse ["HTTP://one:80", "http://two:5052/"])⟩ = .ok a ∧
      a.workloads = [w] ∧
      ["--beacon-nodes", "http://one/,http://two:5052/"] <:+: w.launch.args := by
  have ha : Manifest.admission .none none
      ⟨"v", .validator (asking .lighthouse ["HTTP://one:80", "http://two:5052/"])⟩ = .ok _ :=
    Manifest.admission_eq_ok_iff.2 ⟨by decide +kernel, rfl⟩
  have htexts : Text.joinWith ","
      ((asking .lighthouse ["HTTP://one:80", "http://two:5052/"]).beaconUrls.map Url.text) =
        "http://one/,http://two:5052/" := by decide +kernel
  obtain ⟨-, -, w, hw, -, hnodes⟩ := endpoints_of_admission ha
  rw [htexts] at hnodes
  exact ⟨_, w, ha, hw, hnodes rfl⟩

/-! ## One address -/

/-- To Prysm the host and the port are one word. -/
theorem given_provider {url : Url} {host : String} (hhost : url.host? = some host) :
    given "--beacon-rpc-provider" (some (Prysm.provider url)) =
      Client.prysm.dialling url.scheme host url.port? := by
  rw [given_some, Client.dialling, Prysm.provider, hhost, Option.getD_some]
  cases url.port? with
  | none => rw [String.append_empty, Option.elim_none]
  | some p => rw [Option.elim_some, String.append_assoc]

/-- To Nimbus they are two words. -/
theorem beaconArgs_eq {url : Url} {host : String} (hhost : url.host? = some host) :
    Nimbus.beaconArgs url = Client.nimbus.dialling url.scheme host url.port? := by
  rw [Nimbus.beaconArgs, Client.dialling, hhost, Option.getD_some]
  cases url.port? <;> rfl

/-- Prysm is told the host and the port together. -/
theorem prysm_infix {url : Url} {host : String} (hurls : v.beaconUrls = [url])
    (hhost : url.host? = some host) :
    Client.prysm.dialling url.scheme host url.port? <:+: Prysm.validatorArgs v := by
  rw [← given_provider hhost]
  refine ⟨["--accept-terms-of-use", "--datadir", Home.data Prysm.home,
    Prysm.networkFlag v.network], ?_⟩
  simp only [Prysm.validatorArgs, hurls, List.append_assoc]
  exact ⟨_, rfl⟩

/-- Nimbus is told the scheme and the host, and the port by itself. -/
theorem nimbus_infix {url : Url} {host : String} (hurls : v.beaconUrls = [url])
    (hhost : url.host? = some host) :
    Client.nimbus.dialling url.scheme host url.port? <:+: Nimbus.validatorArgs v := by
  rw [← beaconArgs_eq hhost]
  refine ⟨["--non-interactive", assigned "--data-dir" (Home.data Nimbus.home)], ?_⟩
  simp only [Nimbus.validatorArgs, Nimbus.endpointArgs, hurls, List.append_assoc]
  exact ⟨_, rfl⟩

/-- An admitted validator of a client that asks a single beacon node has one endpoint. If its
    address has a host, the client is told it, with the port if the address has one; and an address
    has both if it has a port, be it only that of its scheme. -/
theorem dials_of_admission {images : Image.Overrides} {old : Option Manifest} {name : String}
    {a : Admitted} (h : Manifest.admission images old ⟨name, .validator v⟩ = .ok a)
    (hclient : v.client = .prysm ∨ v.client = .nimbus) :
    ∃ w endpoint url, a.workloads = [w] ∧ v.beaconEndpoints = [endpoint] ∧
      Url.ofText? endpoint = some url ∧
      (url.scheme ∈ ["http", "https", "ws", "wss", "ftp"] → ∃ p, url.port? = some p) ∧
      (∀ p, url.port? = some p → ∃ host, url.host? = some host) ∧
      ∀ host, url.host? = some host →
        host ≠ "" ∧ v.client.dialling url.scheme host url.port? <:+: w.launch.args := by
  -- only Lighthouse may be given several endpoints, so these two clients have one
  obtain ⟨hfit, w, hworkloads, hlaunch⟩ := of_admission h
  have hone : v.client ≠ .lighthouse := by
    rcases hclient with hprysm | hnimbus
    · rw [hprysm]
      decide
    · rw [hnimbus]
      decide
  obtain ⟨endpoint, url, hsingle, hurl, hurls⟩ := hfit.exists_single hone
  refine ⟨w, endpoint, url, hworkloads, hsingle, hurl, Url.exists_port?_of_scheme,
    fun _ hport => Url.exists_host?_of_port? hurl hport, fun host hhost =>
      ⟨Url.ne_empty_of_host? hhost, ?_⟩⟩
  rcases hclient with hprysm | hnimbus
  · rw [hlaunch, hprysm]
    exact prysm_infix hurls hhost
  · rw [hlaunch, hnimbus]
    exact nimbus_infix hurls hhost

/-- Nimbus is told the port of the scheme where the address has none of its own. -/
theorem dials_of_admission_nimbus :
    ∃ a w, Manifest.admission .none none
        ⟨"v", .validator (asking .nimbus ["https://beacon/eth"])⟩ = .ok a ∧ a.workloads = [w] ∧
      ["--rpc-address=https://beacon", "--rpc-port=443"] <:+: w.launch.args := by
  have ha : Manifest.admission .none none
      ⟨"v", .validator (asking .nimbus ["https://beacon/eth"])⟩ = .ok _ :=
    Manifest.admission_eq_ok_iff.2 ⟨by decide +kernel, rfl⟩
  have hread : Url.ofText? "https://beacon/eth" =
      some ⟨"https", some ⟨"", "", .name "beacon", none⟩, .segments ["eth"], none, none⟩ := by
    decide +kernel
  obtain ⟨w, endpoint, url, hw, hsingle, hurl, -, -, hdial⟩ := dials_of_admission ha (.inr rfl)
  obtain rfl : "https://beacon/eth" = endpoint := List.singleton_inj.1 hsingle
  obtain rfl := Option.some.inj (hread.symm.trans hurl)
  have hwords : Client.nimbus.dialling "https" "beacon" (some 443) =
      ["--rpc-address=https://beacon", "--rpc-port=443"] := by decide +kernel
  rw [← hwords]
  exact ⟨_, w, ha, hw, (hdial "beacon" (by decide +kernel)).2⟩

/-- Without a colon in its words, a command line names no host with its port. -/
theorem not_provider_infix {words : List String} (h : ∀ word ∈ words, ':' ∉ word.toList) :
    ¬ ∃ host p, host ≠ "" ∧ ["--beacon-rpc-provider", host ++ ":" ++ port p] <:+: words := by
  rintro ⟨host, p, -, htold⟩
  have hprovider := htold.subset (List.mem_cons_of_mem _ List.mem_cons_self)
  exact h _ hprovider (by simp)

/-- Prysm is admitted with an address that has no host, and with one that has a host and no port. -/
theorem exists_admission_without_port :
    (∃ a w, Manifest.admission .none none
        ⟨"v", .validator (asking .prysm ["localhost:4000"])⟩ = .ok a ∧ a.workloads = [w] ∧
      ¬ ∃ host p, host ≠ "" ∧
        ["--beacon-rpc-provider", host ++ ":" ++ port p] <:+: w.launch.args) ∧
    ∃ a w, Manifest.admission .none none
        ⟨"v", .validator (asking .prysm ["grpc://beacon"])⟩ = .ok a ∧ a.workloads = [w] ∧
      ¬ ∃ host p, host ≠ "" ∧
        ["--beacon-rpc-provider", host ++ ":" ++ port p] <:+: w.launch.args := by
  constructor
  -- what stands before a colon is a scheme, so this address has a path alone
  · exact ⟨_, _, Manifest.admission_eq_ok_iff.2 ⟨by decide +kernel, rfl⟩, rfl,
      not_provider_infix (by decide +kernel)⟩
  · exact ⟨_, _, Manifest.admission_eq_ok_iff.2 ⟨by decide +kernel, rfl⟩, rfl,
      not_provider_infix (by decide +kernel)⟩

end Validator

end Nodewright.Beacon
