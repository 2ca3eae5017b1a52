import Nodewright.Arguments
import Nodewright.Codec.Choice
import Nodewright.Endpoint
import Nodewright.Home
import Nodewright.Storage.Client
import Nodewright.Workload

/-! # Peers of a content-addressed store

A peer is set up through its environment, which is read before it starts. -/

namespace Nodewright.Storage

open FieldPath (field)
open Report (when)

/-- A peer. -/
structure Peer where
  client : PeerClient
  image : Option String
  /-- Applied once, when the repository is made. -/
  initProfiles : List Profile
  /-- Applied at every start. -/
  profiles : List Profile
  apiHost : Option String
  apiPort : Option UInt16
  gatewayHost : Option String
  gatewayPort : Option UInt16
  routing : Option Routing
  /-- The key of a private swarm, if the peer joins one. -/
  swarmKeySecretName : Option String
  logging : Option Verbosity
  resources : Resources
deriving DecidableEq

namespace Peer

/-- A peer as JSON. -/
def codec : Codec Peer :=
  (Fields.build mk
    |>.member (.defaulted "client" (.client PeerClient .peer) .goIpfs) client
    |>.member (.optional "image" .text) image
    |>.member (.listing "initProfiles" (.choice Profile)) initProfiles
    |>.member (.listing "profiles" (.choice Profile)) profiles
    |>.member (.optional "apiHost" .text) apiHost
    |>.member (.optional "apiPort" .word16) apiPort
    |>.member (.optional "gatewayHost" .text) gatewayHost
    |>.member (.optional "gatewayPort" .word16) gatewayPort
    |>.member (.optional "routing" (.choice Routing)) routing
    |>.member (.optional "swarmKeySecretName" .text) swarmKeySecretName
    |>.member (.optional "logging" (.choice Verbosity)) logging
    |>.member (.defaulted "resources" Resources.codec .none) resources).codec "PeerSpec"

/-- What a peer asks for by default. -/
def profile : ResourceProfile := ⟨"1", "1", "2Gi", "4Gi", "10Gi"⟩

/-- The usual settings where none are given. -/
def fill (images : Image.Overrides) (p : Peer) : Peer :=
  { p with
    image := some (images.resolve p.image p.client.imageSource)
    initProfiles := if p.initProfiles.isEmpty then [.defaultDatastore] else p.initProfiles
    apiHost := some (p.apiHost.getD Endpoint.wildcard)
    apiPort := some (p.apiPort.getD 5001)
    gatewayHost := some (p.gatewayHost.getD Endpoint.wildcard)
    gatewayPort := some (p.gatewayPort.getD 8080)
    routing := some (p.routing.getD .dht)
    logging := some (p.logging.getD .info)
    resources := p.resources.fill profile }

/-- What is wrong with a peer by itself. -/
def problems (p : Peer) : Report :=
  peerCapabilities.loggingRule p.client p.logging (field "logging") ++
  p.resources.problems (field "resources")

/-- The names of profiles, with commas between them. -/
def profileText (profiles : List Profile) : String :=
  Text.joinWith "," (profiles.map Profile.name)

/-- What changed in a peer that must not change. -/
def transitions (old new : Peer) : Report :=
  when (old.initProfiles ≠ new.initProfiles)
    (.immutable (field "initProfiles") (.text (profileText new.initProfiles))) ++
  Resources.transitions old.resources new.resources (field "resources")

/-- The home directory of a peer. -/
def home : String := "/home/ipfs"

/-- The arguments of a peer. -/
def args (p : Peer) : List String :=
  "daemon" :: Arguments.given "--routing" (p.routing.map Routing.name)

/-- The profiles as a value of the environment, if there are any. -/
def profileValue (profiles : List Profile) : Option EnvValue :=
  if profiles.isEmpty then none else some (.literal (profileText profiles))

/-- The environment of a peer. -/
def env (p : Peer) : Environment :=
  .ofList <|
    [("IPFS_PATH", .literal (Home.data home))] ++
    Environment.given "IPFS_API_HOST" (p.apiHost.map .literal) ++
    Environment.given "IPFS_API_PORT" (p.apiPort.map fun n => .literal (Arguments.port n)) ++
    Environment.given "IPFS_GATEWAY_HOST" (p.gatewayHost.map .literal) ++
    Environment.given "IPFS_GATEWAY_PORT"
      (p.gatewayPort.map fun n => .literal (Arguments.port n)) ++
    Environment.given "IPFS_INIT_PROFILES" (profileValue p.initProfiles) ++
    Environment.given "IPFS_PROFILES" (profileValue p.profiles) ++
    Environment.given "IPFS_SWARM_KEY" (p.swarmKeySecretName.map fun name =>
      .secret name "secret") ++
    Environment.given "GOLOG_LOG_LEVEL" (p.logging.map fun level => .literal level.name)

/-- How a peer is started. -/
def launch (p : Peer) : Launch where
  image := p.image.getD p.client.imageSource.builtIn
  command := ["ipfs"]
  args := args p
  env := env p
  homeDir := home

/-- The workload of a peer of the given name. -/
def workload (name : String) (p : Peer) : Workload :=
  .ofLaunch name .peer p.client.name "peer" p.launch p.resources

end Peer

end Nodewright.Storage
