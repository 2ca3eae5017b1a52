import Nodewright.Arguments
import Nodewright.Beacon.Node
import Nodewright.Beacon.Validator
import Nodewright.Home
import Nodewright.Workload

/-! # How Prysm is started

Prysm has a flag of its own for each public network, offers its gateway unless it is told not to,
and dials a single beacon node by host and port. -/

namespace Nodewright.Beacon.Prysm

open Arguments

/-- The home directory of Prysm. -/
def home : String := "/home/prysm"

/-- The flag of a public network. -/
def networkFlag (network : String) : String := "--" ++ network

/-- Where the certificate is. -/
def certFile : String := Home.secret home "cert/tls.crt"

/-- Where the key of the certificate is. -/
def keyFile : String := Home.secret home "cert/tls.key"

/-- Where the node is looked for, by both transports. -/
def p2pArgs (n : Node) : List String :=
  match n.p2pPort with
  | some p => ["--p2p-tcp-port", port p, "--p2p-udp-port", port p]
  | none => []

/-- Where the state to start from is asked for. -/
def checkpointArgs (n : Node) : List String :=
  match n.checkpointSyncUrl with
  | some url => ["--checkpoint-sync-url", url, "--genesis-beacon-api-url", url]
  | none => []

/-- The interface for remote procedure calls. -/
def rpcArgs (n : Node) : List String :=
  when n.rpc.enabled <|
    given "--rpc-host" n.rpc.host ++ given "--rpc-port" (n.rpc.port.map port)

/-- The gateway. -/
def grpcArgs (n : Node) : List String :=
  if n.grpc.enabled then
    given "--grpc-gateway-host" n.grpc.host ++
    given "--grpc-gateway-port" (n.grpc.port.map port) ++
    listed "--grpc-gateway-corsdomain" n.corsDomains
  else ["--disable-grpc-gateway"]

/-- The arguments of a beacon node. -/
def nodeArgs (n : Node) : List String :=
  ["--accept-terms-of-use", "--datadir", Home.data home, networkFlag n.network] ++
  given "--execution-endpoint" n.executionEngineEndpoint ++
  when n.jwtSecretName.isSome ["--jwt-secret", Home.secret home "jwt.secret"] ++
  checkpointArgs n ++ p2pArgs n ++ rpcArgs n ++ grpcArgs n ++
  when n.certSecretName.isSome ["--tls-cert", certFile, "--tls-key", keyFile] ++
  given "--verbosity" (n.logging.map Verbosity.name)

/-- How a beacon node is started. -/
def nodeLaunch (n : Node) : Launch where
  image := n.image.getD Client.prysm.nodeImage.builtIn
  command := []
  args := nodeArgs n
  env := .empty
  homeDir := home

/-- Where a beacon node is dialled: its host, and its port if that is known. -/
def provider (url : Url) : String :=
  url.host?.getD "" ++
    match url.port? with
    | some p => ":" ++ port p
    | none => ""

/-- Where the wallet and its password are. -/
def walletArgs : List String :=
  ["--wallet-dir", Home.data home ++ "/prysm-wallet", "--wallet-password-file",
    Home.secret home "prysm-wallet/prysm-wallet-password.txt"]

/-- The arguments of a validator. -/
def validatorArgs (v : Validator) : List String :=
  ["--accept-terms-of-use", "--datadir", Home.data home, networkFlag v.network] ++
  given "--beacon-rpc-provider" (v.beaconUrls.head?.map provider) ++
  given "--graffiti" v.graffiti ++
  given "--suggested-fee-recipient" v.feeRecipient ++
  when v.walletPasswordSecret.isSome walletArgs ++
  when v.certSecretName.isSome ["--tls-cert", certFile] ++
  given "--verbosity" (v.logging.map Verbosity.name)

/-- How a validator is started. -/
def validatorLaunch (v : Validator) : Launch where
  image := v.image.getD Client.prysm.validatorImage.builtIn
  command := []
  args := validatorArgs v
  env := .empty
  homeDir := home

end Nodewright.Beacon.Prysm
