import Nodewright.Capability
import Nodewright.Image.Overrides

/-! # Clients of the consensus chain

Each client runs beacon nodes and validators; what it can do, and its image, depend on the part
that it plays. -/

namespace Nodewright.Beacon

/-- A program that runs beacon nodes and validators. -/
inductive Client where
  | teku
  | prysm
  | lighthouse
  | nimbus
deriving DecidableEq, Repr

namespace Client

/-- The name of a client. -/
def name : Client → String
  | teku => "teku"
  | prysm => "prysm"
  | lighthouse => "lighthouse"
  | nimbus => "nimbus"

instance : Named Client where
  all := [teku, prysm, lighthouse, nimbus]
  name := name
  mem_all a := by cases a <;> simp
  name_injective a b := by cases a <;> cases b <;> simp [name]

/-- The images of beacon nodes. -/
def nodeImage : Client → Image.Source
  | teku => ⟨"TEKU_BEACON_NODE_IMAGE", "consensys/teku:22.9.1"⟩
  | prysm => ⟨"PRYSM_BEACON_NODE_IMAGE", "gcr.io/prysmaticlabs/prysm/beacon-chain:v3.1.1"⟩
  | lighthouse => ⟨"LIGHTHOUSE_BEACON_NODE_IMAGE", "sigp/lighthouse:v3.1.2"⟩
  | nimbus => ⟨"NIMBUS_BEACON_NODE_IMAGE", "statusim/nimbus-eth2:multiarch-v22.9.1"⟩

/-- The images of validators. -/
def validatorImage : Client → Image.Source
  | teku => ⟨"TEKU_VALIDATOR_IMAGE", "consensys/teku:22.9.1"⟩
  | prysm => ⟨"PRYSM_VALIDATOR_IMAGE", "gcr.io/prysmaticlabs/prysm/validator:v3.1.1"⟩
  | lighthouse => ⟨"LIGHTHOUSE_VALIDATOR_IMAGE", "sigp/lighthouse:v3.1.2"⟩
  | nimbus => ⟨"NIMBUS_VALIDATOR_IMAGE", "statusim/nimbus-validator-client:multiarch-v22.9.1"⟩

end Client

/-- The levels of logging that Teku knows. -/
def tekuLevels : List Feature :=
  [.logging .off, .logging .fatal, .logging .error, .logging .warn, .logging .info,
    .logging .debug, .logging .trace, .logging .all]

/-- The levels of logging that Prysm knows. -/
def prysmLevels : List Feature :=
  [.logging .trace, .logging .debug, .logging .info, .logging .warn, .logging .error,
    .logging .fatal, .logging .panic]

/-- The levels of logging that Lighthouse knows. -/
def lighthouseLevels : List Feature :=
  [.logging .error, .logging .warn, .logging .info, .logging .debug, .logging .trace,
    .logging .crit]

/-- The levels of logging that Nimbus knows. -/
def nimbusLevels : List Feature :=
  [.logging .trace, .logging .debug, .logging .info, .logging .notice, .logging .warn,
    .logging .error, .logging .fatal, .logging .none]

/-- What each client can do as a beacon node. -/
def nodeCapabilities : Registry Client where
  entries := [
    (.teku, [.rest, .checkpointSync] ++ tekuLevels),
    (.prysm, [.rpc, .grpc, .tls, .checkpointSync] ++ prysmLevels),
    (.lighthouse, [.rest, .checkpointSync] ++ lighthouseLevels),
    (.nimbus, [.rest] ++ nimbusLevels)]

/-- What each client can do as a validator. -/
def validatorCapabilities : Registry Client where
  entries := [
    (.teku, tekuLevels),
    (.prysm, [.tls] ++ prysmLevels),
    (.lighthouse, [.multipleBeaconEndpoints] ++ lighthouseLevels),
    (.nimbus, nimbusLevels)]

end Nodewright.Beacon
