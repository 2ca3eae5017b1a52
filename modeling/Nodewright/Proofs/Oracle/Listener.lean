import Nodewright.Proofs.Oracle.Environment

/-!
# Where an oracle node proves who it is

An oracle node has a second listener, for those who want to know whom they talk to. It is told the
port of this listener in any case: port 0 switches it off. With a certificate the port is the one of
the spec, which may itself be 0. Then the node is told where the certificate and its key are, and
does not listen all the same.

## Key results

- `Oracle.Node.get?_env_of_certificate`, `Oracle.Node.get?_env_of_none`: what it is told about the
  listener
- `Oracle.Node.listener_of_admission`: when the listener of an admitted node is on, and when it is
  off
-/

namespace Nodewright.Oracle.Node

/-! ## The listener -/

/-- Where an oracle node finds its certificate. -/
def certificatePath : String := "/home/chainlink/.kotal-secrets/tls-secret/tls.crt"

/-- Where an oracle node finds the key of its certificate. -/
def keyPath : String := "/home/chainlink/.kotal-secrets/tls-secret/tls.key"

/-- A node with a certificate is told its port, and where the certificate and the key are. -/
theorem get?_env_of_certificate {n : Node} {port : UInt16} (hcert : n.certSecretName.isSome)
    (hport : n.tlsPort = some port) :
    (env n).get? "CHAINLINK_TLS_PORT" = some (.literal (Arguments.port port)) ∧
      (env n).get? "TLS_CERT_PATH" = some (.literal certificatePath) ∧
      (env n).get? "TLS_KEY_PATH" = some (.literal keyPath) := by
  have hcertificate : certificatePath = Home.secret home "tls-secret/tls.crt" := rfl
  have hkey : keyPath = Home.secret home "tls-secret/tls.key" := rfl
  have htells := n.envTable.tells_ofList
  rw [env_eq, hcertificate, hkey]
  refine ⟨htells.get?_eq ?_, htells.get?_eq ?_, htells.get?_eq ?_⟩ <;>
    simp [envTable, hcert, hport]

/-- A node without one is told that the port is 0, and nothing else. -/
theorem get?_env_of_none {n : Node} (hcert : n.certSecretName = none) :
    (env n).get? "CHAINLINK_TLS_PORT" = some (.literal "0") ∧
      (env n).get? "TLS_CERT_PATH" = none ∧ (env n).get? "TLS_KEY_PATH" = none := by
  have htells := n.envTable.tells_ofList
  rw [env_eq]
  refine ⟨htells.get?_eq ?_, htells.get?_eq ?_, htells.get?_eq ?_⟩ <;> simp [envTable, hcert]

/-- The listener is on: it has a port other than 0, a certificate and a key. -/
structure Listens (env : Environment) : Prop where
  port : ∃ p : UInt16, p ≠ 0 ∧ env.get? "CHAINLINK_TLS_PORT" = some (.literal (Arguments.port p))
  certificate : (env.get? "TLS_CERT_PATH").isSome
  key : (env.get? "TLS_KEY_PATH").isSome

/-- The listener is off, and nothing is said about a certificate or a key. -/
structure IsOff (env : Environment) : Prop where
  port : env.get? "CHAINLINK_TLS_PORT" = some (.literal "0")
  certificate : env.get? "TLS_CERT_PATH" = none
  key : env.get? "TLS_KEY_PATH" = none

/-- The listener of a node that has a port is on iff there is a certificate and the port is not
    0. -/
theorem listens_env_iff {n : Node} {port : UInt16} (hport : n.tlsPort = some port) :
    Listens (env n) ↔ n.certSecretName.isSome ∧ port ≠ 0 := by
  cases hcert : n.certSecretName with
  | none =>
    -- no certificate is named
    obtain ⟨-, hnone, -⟩ := get?_env_of_none hcert
    refine iff_of_false (fun h => ?_) (by simp)
    simpa [hnone] using h.certificate
  | some secret =>
    obtain ⟨htls, hcertificate, hkey⟩ := get?_env_of_certificate (by simp [hcert]) hport
    simp only [Option.isSome_some, true_and]
    constructor
    · rintro ⟨⟨p, hp, hget⟩, -, -⟩
      rw [htls] at hget
      obtain rfl := Arguments.port_injective (EnvValue.literal.inj (Option.some.inj hget))
      exact hp
    · exact fun hp => ⟨⟨port, hp, htls⟩, by simp [hcertificate], by simp [hkey]⟩

/-- It is off, without a word about a certificate, iff there is none. -/
theorem isOff_env_iff {n : Node} (hport : n.tlsPort.isSome) :
    IsOff (env n) ↔ n.certSecretName = none := by
  obtain ⟨port, hport⟩ := Option.isSome_iff_exists.1 hport
  constructor
  · intro h
    -- with a certificate its place would be told
    by_contra hcert
    obtain ⟨-, hcertificate, -⟩ :=
      get?_env_of_certificate (Option.isSome_iff_ne_none.2 hcert) hport
    simpa [hcertificate] using h.certificate
  · intro hcert
    obtain ⟨hzero, hcertificate, hkey⟩ := get?_env_of_none hcert
    exact ⟨hzero, hcertificate, hkey⟩

/-! ## Listeners of admitted nodes -/

/-- An admitted oracle node is always told a port for its listener. The listener is on iff there is
    a certificate and the spec does not ask for port 0; it is off, with nothing said about a
    certificate, iff there is none. With a certificate the port is the one of the spec, or else the
    usual one, whether it is 0 or not. -/
theorem listener_of_admission {images : Image.Overrides} {old : Option Manifest} {name : String}
    {n : Node} {a : Admitted}
    (h : Manifest.admission images old ⟨name, .chainlinkNode n⟩ = .ok a) :
    ∃ w, a.workloads = [w] ∧
      (w.launch.env.get? "CHAINLINK_TLS_PORT").isSome ∧
      (Listens w.launch.env ↔ n.certSecretName.isSome ∧ n.tlsPort ≠ some 0) ∧
      (IsOff w.launch.env ↔ n.certSecretName = none) ∧
      (n.certSecretName.isSome →
        w.launch.env.get? "CHAINLINK_TLS_PORT" =
          some (.literal (Arguments.port (n.tlsPort.getD 6689))) ∧
        w.launch.env.get? "TLS_CERT_PATH" = some (.literal certificatePath) ∧
        w.launch.env.get? "TLS_KEY_PATH" = some (.literal keyPath)) := by
  obtain ⟨w, hw, henv⟩ := env_of_admission h
  refine ⟨w, hw, ?_⟩
  rw [henv]
  -- filling leaves the certificate alone, and a port is always there behind it
  have hport : (n.fill images).tlsPort = some (n.tlsPort.getD 6689) := rfl
  have hcert : (n.fill images).certSecretName = n.certSecretName := rfl
  have hzero : n.tlsPort.getD 6689 ≠ 0 ↔ n.tlsPort ≠ some 0 := by
    cases n.tlsPort <;> simp
  refine ⟨?_, ?_, isOff_env_iff (by simp [hport]), fun hsome => ?_⟩
  · cases hsecret : n.certSecretName with
    | none => simp [get?_env_of_none (hcert.trans hsecret)]
    | some secret =>
      have hsome : (n.fill images).certSecretName.isSome := by simp [hcert, hsecret]
      simp [get?_env_of_certificate hsome hport]
  · rw [listens_env_iff hport, hcert, hzero]
  · exact get?_env_of_certificate hsome hport

/-- A node with a certificate and the given port. -/
def listening (port : Option UInt16) : Node where
  client := .chainlink
  image := none
  ethereumChainId := 4
  ethereumWsEndpoint := "ws://[::1]"
  ethereumHttpEndpoints := []
  linkContractAddress := "0x01BE23585060835E02B77ef475b0Cc51aA1e0709"
  databaseUrl := "postgresql://postgres"
  keystorePasswordSecretName := "keystore-password"
  apiCredentials := ⟨"operator@example.com", "api-password"⟩
  apiPort := none
  tlsPort := port
  p2pPort := none
  certSecretName := some "certificate"
  secureCookies := false
  corsDomains := []
  logging := none
  resources := .none

/-- No rule asks for the port of the listener. -/
theorem problems_tlsPort (n : Node) (port : Option UInt16) :
    problems { n with tlsPort := port } = problems n := rfl

/-- The node is admitted with each port, and without one. -/
theorem admission_listening (port : Option UInt16) :
    ∃ a, Manifest.admission .none none ⟨"node", .chainlinkNode (listening port)⟩ = .ok a := by
  -- the rules are gone through once, for the usual port
  have hnone : problems ((listening none).fill .none) = [] := by decide +kernel
  have hproblems : problems ((listening port).fill .none) = [] :=
    (problems_tlsPort ((listening none).fill .none) (some (port.getD 6689))).trans hnone
  exact ⟨_, Manifest.admission_eq_ok_iff.2 ⟨hproblems, rfl⟩⟩

/-- Without a port in the spec the usual one is told, and the listener is on. -/
theorem listener_of_admission_listening :
    ∃ a w, Manifest.admission .none none ⟨"node", .chainlinkNode (listening none)⟩ = .ok a ∧
      a.workloads = [w] ∧ Listens w.launch.env ∧ ¬ IsOff w.launch.env ∧
      w.launch.env.get? "CHAINLINK_TLS_PORT" = some (.literal (Arguments.port 6689)) := by
  obtain ⟨a, h⟩ := admission_listening none
  obtain ⟨w, hw, -, hon, hoff, hport⟩ := listener_of_admission h
  have hcert : (listening none).certSecretName ≠ none := nofun
  exact ⟨a, w, h, hw, hon.2 ⟨rfl, nofun⟩, mt hoff.1 hcert, (hport rfl).1⟩

/-- With port 0 a node is admitted that has a certificate, and is told to switch its listener off,
    together with the places of the certificate and its key. -/
theorem exists_certificate_not_listening :
    ∃ a w, Manifest.admission .none none ⟨"node", .chainlinkNode (listening (some 0))⟩ = .ok a ∧
      a.workloads = [w] ∧ (listening (some 0)).certSecretName.isSome ∧ ¬ Listens w.launch.env ∧
      w.launch.env.get? "CHAINLINK_TLS_PORT" = some (.literal "0") ∧
      (w.launch.env.get? "TLS_CERT_PATH").isSome ∧ (w.launch.env.get? "TLS_KEY_PATH").isSome := by
  obtain ⟨a, h⟩ := admission_listening (some 0)
  obtain ⟨w, hw, henv⟩ := env_of_admission h
  have hport : ((listening (some 0)).fill .none).tlsPort = some 0 := rfl
  obtain ⟨htls, hcertificate, hkey⟩ := get?_env_of_certificate (by rfl) hport
  refine ⟨a, w, h, hw, rfl, ?_, ?_, ?_, ?_⟩
  · rw [henv, listens_env_iff hport]
    exact fun h' => h'.2 rfl
  · rw [henv, htls]
    rfl
  · simp [henv, hcertificate]
  · simp [henv, hkey]

end Nodewright.Oracle.Node
