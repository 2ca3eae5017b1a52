import Nodewright.Arguments
import Nodewright.Beacon.Node
import Nodewright.Beacon.Validator
import Nodewright.Home
import Nodewright.Workload

/-! # How Teku is started

Teku takes a flag and its value as two arguments, and levels of logging in capital letters. -/

namespace Nodewright.Beacon.Teku

open Arguments

/-- The home directory of Teku. -/
def home : String := "/opt/teku"

/-- The interface of a beacon node. -/
def restArgs (n : Node) : List String :=
  when n.rest.enabled <|
    ["--rest-api-enabled"] ++
    given "--rest-api-port" (n.rest.port.map port) ++
    given "--rest-api-interface" n.rest.host ++
    listed "--rest-api-cors-origins" n.corsDomains ++
    listed "--rest-api-host-allowlist" n.hosts

/-- The arguments of a beacon node. -/
def nodeArgs (n : Node) : List String :=
  ["--data-path", Home.data home] ++
  given "--p2p-port" (n.p2pPort.map port) ++
  ["--network", n.network] ++
  given "--ee-endpoint" n.executionEngineEndpoint ++
  when n.jwtSecretName.isSome ["--ee-jwt-secret-file", Home.secret home "jwt.secret"] ++
  given "--initial-state" n.checkpointSyncUrl ++
  restArgs n ++
  given "--logging" (n.logging.map Verbosity.upperName)

/-- How a beacon node is started. -/
def nodeLaunch (n : Node) : Launch where
  image := n.image.getD Client.teku.nodeImage.builtIn
  command := []
  args := nodeArgs n
  env := .empty
  homeDir := home

/-- Where a key and its password are found. -/
def keyFiles (k : Keystore) : String :=
  Home.secret home (k.secretName ++ "/keystore.json") ++ ":" ++
    Home.secret home (k.secretName ++ "/password.txt")

/-- The arguments of a validator. -/
def validatorArgs (v : Validator) : List String :=
  ["validator-client", "--network", v.network, "--data-path", Home.data home] ++
  listed "--beacon-node-api-endpoints" v.beaconTexts ++
  given "--validators-graffiti" v.graffiti ++
  given "--validators-proposer-default-fee-recipient" v.feeRecipient ++
  listed "--validator-keys" (v.keystores.map keyFiles) ++
  given "--logging" (v.logging.map Verbosity.upperName)

/-- How a validator is started. -/
def validatorLaunch (v : Validator) : Launch where
  image := v.image.getD Client.teku.validatorImage.builtIn
  command := []
  args := validatorArgs v
  env := .empty
  homeDir := home

end Nodewright.Beacon.Teku
