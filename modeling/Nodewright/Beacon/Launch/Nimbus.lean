import Nodewright.Arguments
import Nodewright.Beacon.Node
import Nodewright.Beacon.Validator
import Nodewright.Home
import Nodewright.Workload

/-! # How Nimbus is started

Nimbus takes a flag and its value as one argument, and levels of logging in capital letters. -/

namespace Nodewright.Beacon.Nimbus

open Arguments

/-- The home directory of Nimbus. -/
def home : String := "/home/nimbus"

/-- A flag and its value in one argument, if there is a value. -/
def assignedIf (flag : String) (value : Option String) : List String :=
  match value with
  | some v => [assigned flag v]
  | none => []

/-- Where the node is looked for, by both transports. -/
def p2pArgs (n : Node) : List String :=
  match n.p2pPort with
  | some p => [assigned "--tcp-port" (port p), assigned "--udp-port" (port p)]
  | none => []

/-- The interface of a beacon node. -/
def restArgs (n : Node) : List String :=
  when n.rest.enabled <|
    ["--rest"] ++
    assignedIf "--rest-address" n.rest.host ++
    assignedIf "--rest-port" (n.rest.port.map port) ++
    when (!n.corsDomains.isEmpty)
      [assigned "--rest-allow-origin" (Text.joinWith "," n.corsDomains)]

/-- The arguments of a beacon node. -/
def nodeArgs (n : Node) : List String :=
  ["--non-interactive", assigned "--data-dir" (Home.data home), assigned "--network" n.network] ++
  assignedIf "--web3-url" n.executionEngineEndpoint ++
  when n.jwtSecretName.isSome [assigned "--jwt-secret" (Home.secret home "jwt.secret")] ++
  p2pArgs n ++ restArgs n ++
  assignedIf "--log-level" (n.logging.map Verbosity.upperName)

/-- How a beacon node is started. -/
def nodeLaunch (n : Node) : Launch where
  image := n.image.getD Client.nimbus.nodeImage.builtIn
  command := ["nimbus_beacon_node"]
  args := nodeArgs n
  env := .empty
  homeDir := home

/-- Where the beacon node answers: its scheme and host, and its port if that is known. -/
def beaconArgs (url : Url) : List String :=
  assigned "--rpc-address" (url.scheme ++ "://" ++ url.host?.getD "") ::
    assignedIf "--rpc-port" (url.port?.map port)

/-- The beacon node that a validator asks. -/
def endpointArgs (v : Validator) : List String :=
  match v.beaconUrls with
  | url :: _ => beaconArgs url
  | [] => []

/-- Where the keys and their passwords are. -/
def keyArgs : List String :=
  [assigned "--validators-dir" (Home.data home ++ "/validator-keys"),
    assigned "--secrets-dir" (Home.data home ++ "/validator-secrets")]

/-- The arguments of a validator. -/
def validatorArgs (v : Validator) : List String :=
  ["--non-interactive", assigned "--data-dir" (Home.data home)] ++
  endpointArgs v ++
  assignedIf "--graffiti" v.graffiti ++
  assignedIf "--suggested-fee-recipient" v.feeRecipient ++
  when (!v.keystores.isEmpty) keyArgs ++
  assignedIf "--log-level" (v.logging.map Verbosity.upperName)

/-- How a validator is started. -/
def validatorLaunch (v : Validator) : Launch where
  image := v.image.getD Client.nimbus.validatorImage.builtIn
  command := ["nimbus_validator_client"]
  args := validatorArgs v
  env := .empty
  homeDir := home

end Nodewright.Beacon.Nimbus
