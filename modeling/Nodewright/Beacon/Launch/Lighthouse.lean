import Nodewright.Arguments
import Nodewright.Beacon.Node
import Nodewright.Beacon.Validator
import Nodewright.Home
import Nodewright.Workload

/-! # How Lighthouse is started

Lighthouse is one program, which is told which part to play. -/

namespace Nodewright.Beacon.Lighthouse

open Arguments

/-- The home directory of Lighthouse. -/
def home : String := "/home/lighthouse"

/-- The interface of a beacon node. -/
def restArgs (n : Node) : List String :=
  when n.rest.enabled <|
    ["--http"] ++
    given "--http-address" n.rest.host ++
    given "--http-port" (n.rest.port.map port) ++
    listed "--http-allow-origin" n.corsDomains

/-- The arguments of a beacon node. -/
def nodeArgs (n : Node) : List String :=
  ["--datadir", Home.data home, "--network", n.network] ++
  given "--execution-endpoint" n.executionEngineEndpoint ++
  when n.jwtSecretName.isSome ["--execution-jwt", Home.secret home "jwt.secret"] ++
  given "--checkpoint-sync-url" n.checkpointSyncUrl ++
  given "--port" (n.p2pPort.map port) ++
  restArgs n ++
  given "--debug-level" (n.logging.map Verbosity.name)

/-- How a beacon node is started. -/
def nodeLaunch (n : Node) : Launch where
  image := n.image.getD Client.lighthouse.nodeImage.builtIn
  command := ["lighthouse", "bn"]
  args := nodeArgs n
  env := .empty
  homeDir := home

/-- The arguments of a validator. -/
def validatorArgs (v : Validator) : List String :=
  ["--datadir", Home.data home, "--network", v.network, "--init-slashing-protection"] ++
  listed "--beacon-nodes" v.beaconTexts ++
  given "--graffiti" v.graffiti ++
  given "--suggested-fee-recipient" v.feeRecipient ++
  given "--debug-level" (v.logging.map Verbosity.name)

/-- How a validator is started. -/
def validatorLaunch (v : Validator) : Launch where
  image := v.image.getD Client.lighthouse.validatorImage.builtIn
  command := ["lighthouse", "vc"]
  args := validatorArgs v
  env := .empty
  homeDir := home

end Nodewright.Beacon.Lighthouse
