import Nodewright.Beacon.Node
import Nodewright.Beacon.Validator
import Nodewright.Format

/-! # Rules of beacon nodes and validators

* `Node.problems`, `Validator.problems`   what is wrong with one by itself
* `Node.transitions`, `Validator.transitions`   what changed that must not change -/

namespace Nodewright.Beacon

open FieldPath (field)
open Report (when ofSome)

/-- The client cannot do what the field asks for. -/
def unsupported (name : String) (value : Violation.Value) (client : Client) : Violation :=
  .invalid (field name) value ("not supported by client " ++ client.name)

/-- The field is an address. -/
def addressRule (place : FieldPath) (s : String) : Report :=
  when (Url.ofText? s).isNone (.invalid place (.text s) "must be a valid url")

/-- Neither the network nor the client changes. -/
def identityTransitions (oldNetwork newNetwork : String) (oldClient newClient : Client) : Report :=
  when (oldNetwork ≠ newNetwork) (.immutable (field "network") (.text newNetwork)) ++
  when (oldClient ≠ newClient) (.immutable (field "client") (.text newClient.name))

namespace Node

/-- Whether the client of a node can do something. -/
def supports (n : Node) (feature : Feature) : Bool := nodeCapabilities.supports n.client feature

/-- A node follows some network. -/
def networkRequired (n : Node) : Report :=
  when (n.network = "") (.required (field "network") "")

/-- A node has an execution node at its side. -/
def executionEngine (n : Node) : Report :=
  match n.executionEngineEndpoint with
  | none => [.required (field "executionEngineEndpoint") ""]
  | some endpoint => addressRule (field "executionEngineEndpoint") endpoint

/-- A node shares a secret with its execution node. -/
def jwtSecretRequired (n : Node) : Report :=
  when n.jwtSecretName.isNone (.required (field "jwtSecretName") "")

/-- The client has the interface, if it shall be offered. -/
def endpointSupport (n : Node) (name : String) (e : Endpoint) (feature : Feature) : Report :=
  when (e.enabled && !n.supports feature) (unsupported name (.flag true) n.client)

/-- The client can prove who it is, if it has a certificate. -/
def tlsSupport (n : Node) : Report :=
  ofSome n.certSecretName fun cert =>
    when (!n.supports .tls) (unsupported "certSecretName" (.text cert) n.client)

/-- The client can start from a checkpoint, if it shall, and the checkpoint has an address. -/
def checkpointSync (n : Node) : Report :=
  ofSome n.checkpointSyncUrl fun url =>
    if n.supports .checkpointSync then addressRule (field "checkpointSyncUrl") url
    else [unsupported "checkpointSyncUrl" (.text url) n.client]

/-- What is wrong with a beacon node by itself. -/
def problems (n : Node) : Report :=
  networkRequired n ++ executionEngine n ++ jwtSecretRequired n ++
  endpointSupport n "rest" n.rest .rest ++ endpointSupport n "rpc" n.rpc .rpc ++
  endpointSupport n "grpc" n.grpc .grpc ++ tlsSupport n ++ checkpointSync n ++
  nodeCapabilities.loggingRule n.client n.logging (field "logging") ++
  n.resources.problems (field "resources")

/-- What changed in a beacon node that must not change. -/
def transitions (old new : Node) : Report :=
  identityTransitions old.network new.network old.client new.client ++
  Resources.transitions old.resources new.resources (field "resources")

end Node

namespace Validator

/-- Whether the client of a validator can do something. -/
def supports (v : Validator) (feature : Feature) : Bool :=
  validatorCapabilities.supports v.client feature

/-- A validator signs for some network. -/
def networkRequired (v : Validator) : Report :=
  when (v.network = "") (.required (field "network") "")

/-- A validator has an endpoint. -/
def endpointsRequired (v : Validator) : Report :=
  when v.beaconEndpoints.isEmpty (.required (field "beaconEndpoints") "")

/-- The endpoints are addresses. -/
def endpointsFormat (v : Validator) : Report :=
  v.beaconEndpoints.zipIdx.flatMap fun (endpoint, i) =>
    addressRule ((field "beaconEndpoints").index i) endpoint

/-- The client can ask several beacon nodes, if there are several endpoints. -/
def multipleEndpoints (v : Validator) : Report :=
  when (1 < v.beaconEndpoints.length && !v.supports .multipleBeaconEndpoints)
    (.invalid (field "beaconEndpoints") (.text (Text.joinWith "," v.beaconEndpoints))
      ("multiple beacon node endpoints not supported by client " ++ v.client.name))

/-- The wallet of Prysm has a password. -/
def walletPassword (v : Validator) : Report :=
  when (v.client = .prysm && v.walletPasswordSecret.isNone)
    (.invalid (field "walletPasswordSecret") (.text "")
      "must provide walletPasswordSecret if client is prysm")

/-- The client can prove who it is, if it has a certificate. -/
def tlsSupport (v : Validator) : Report :=
  ofSome v.certSecretName fun cert =>
    when (!v.supports .tls) (unsupported "certSecretName" (.text cert) v.client)

/-- The account that is paid the fees is an account. -/
def feeRecipientFormat (v : Validator) : Report :=
  ofSome v.feeRecipient fun recipient =>
    when (!Format.isAccountAddress recipient)
      (.invalid (field "feeRecipient") (.text recipient) "must be a valid ethereum address")

/-- What is wrong with a validator by itself. -/
def problems (v : Validator) : Report :=
  networkRequired v ++ endpointsRequired v ++ endpointsFormat v ++ multipleEndpoints v ++
  walletPassword v ++ tlsSupport v ++ feeRecipientFormat v ++
  validatorCapabilities.loggingRule v.client v.logging (field "logging") ++
  v.resources.problems (field "resources")

/-- What changed in a validator that must not change. -/
def transitions (old new : Validator) : Report :=
  identityTransitions old.network new.network old.client new.client ++
  Resources.transitions old.resources new.resources (field "resources")

end Validator

end Nodewright.Beacon
