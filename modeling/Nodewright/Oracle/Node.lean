import Nodewright.Arguments
import Nodewright.Capability
import Nodewright.Codec.Choice
import Nodewright.Format
import Nodewright.Home
import Nodewright.Image.Overrides
import Nodewright.Url.Parser
import Nodewright.Workload

/-! # Oracle nodes

An oracle node carries facts of the world into contracts. It is set up through its environment; the
only files that it reads come from secrets. -/

namespace Nodewright.Oracle

open FieldPath (field)
open Report (when)

/-- A program that runs an oracle node. -/
inductive Client where
  | chainlink
deriving DecidableEq, Repr

namespace Client

/-- The name of a client. -/
def name : Client → String
  | chainlink => "chainlink"

instance : Named Client where
  all := [chainlink]
  name := name
  mem_all a := by cases a; simp
  name_injective a b := by cases a; cases b; simp

/-- The image of an oracle node. -/
def imageSource : Client → Image.Source
  | chainlink => ⟨"CHAINLINK_IMAGE", "smartcontract/chainlink:1.8.0"⟩

end Client

/-- What the client can do. -/
def capabilities : Registry Client where
  entries := [
    (.chainlink, [.logging .debug, .logging .info, .logging .warn, .logging .error,
      .logging .panic])]

/-- Who may use the interface of the node. -/
structure Credentials where
  email : String
  passwordSecretName : String
deriving DecidableEq

/-- An oracle node. -/
structure Node where
  client : Client
  image : Option String
  ethereumChainId : UInt64
  ethereumWsEndpoint : String
  /-- The first one is asked first, the others where it fails. -/
  ethereumHttpEndpoints : List String
  linkContractAddress : String
  databaseUrl : String
  keystorePasswordSecretName : String
  apiCredentials : Credentials
  apiPort : Option UInt16
  tlsPort : Option UInt16
  p2pPort : Option UInt16
  certSecretName : Option String
  secureCookies : Bool
  corsDomains : List String
  logging : Option Verbosity
  resources : Resources
deriving DecidableEq

namespace Credentials

/-- Nobody. -/
def none : Credentials := ⟨"", ""⟩

/-- Credentials as JSON. -/
def codec : Codec Credentials :=
  (Fields.build mk
    |>.member (.defaulted "email" .text "") email
    |>.member (.defaulted "passwordSecretName" .text "") passwordSecretName).codec "ApiCredentials"

end Credentials

namespace Node

/-- An oracle node as JSON. -/
def codec : Codec Node :=
  (Fields.build mk
    |>.member (.defaulted "client" (.client Client .chainlinkNode) .chainlink) client
    |>.member (.optional "image" .text) image
    |>.member (.required "ethereumChainId" .word64) ethereumChainId
    |>.member (.required "ethereumWsEndpoint" .text) ethereumWsEndpoint
    |>.member (.listing "ethereumHttpEndpoints" .text) ethereumHttpEndpoints
    |>.member (.required "linkContractAddress" .text) linkContractAddress
    |>.member (.required "databaseURL" .text) databaseUrl
    |>.member (.defaulted "keystorePasswordSecretName" .text "") keystorePasswordSecretName
    |>.member (.defaulted "apiCredentials" Credentials.codec .none) apiCredentials
    |>.member (.optional "apiPort" .word16) apiPort
    |>.member (.optional "tlsPort" .word16) tlsPort
    |>.member (.optional "p2pPort" .word16) p2pPort
    |>.member (.optional "certSecretName" .text) certSecretName
    |>.member (.defaulted "secureCookies" .flag false) secureCookies
    |>.member (.listing "corsDomains" .text) corsDomains
    |>.member (.optional "logging" (.choice Verbosity)) logging
    |>.member (.defaulted "resources" Resources.codec .none) resources).codec "NodeSpec"

/-- What an oracle node asks for by default. -/
def profile : ResourceProfile := ⟨"2", "4", "2Gi", "4Gi", "20Gi"⟩

/-- The usual settings where none are given. -/
def fill (images : Image.Overrides) (n : Node) : Node :=
  { n with
    image := some (images.resolve n.image n.client.imageSource)
    apiPort := some (n.apiPort.getD 6688)
    tlsPort := some (n.tlsPort.getD 6689)
    p2pPort := some (n.p2pPort.getD 11111)
    corsDomains := if n.corsDomains.isEmpty then ["*"] else n.corsDomains
    logging := some (n.logging.getD .info)
    resources := n.resources.fill profile }

/-- Whether a text is an address with one of the schemes. -/
def hasScheme (s : String) (schemes : List String) : Bool :=
  (Url.ofText? s).any fun url => schemes.contains url.scheme

/-- The field is an address with one of the schemes. -/
def schemeRule (place : FieldPath) (s : String) (schemes : List String) (detail : String) :
    Report :=
  when (!hasScheme s schemes) (.invalid place (.text s) detail)

/-- The contract that pays the node is an account. -/
def linkContractFormat (n : Node) : Report :=
  when (!Format.isAccountAddress n.linkContractAddress)
    (.invalid (field "linkContractAddress") (.text n.linkContractAddress)
      "must be a valid ethereum address")

/-- The execution node is asked over a socket. -/
def wsEndpointRule (n : Node) : Report :=
  schemeRule (field "ethereumWsEndpoint") n.ethereumWsEndpoint ["ws", "wss"]
    "must be a websocket url (ws:// or wss://)"

/-- The execution nodes may be asked one question at a time. -/
def httpEndpointsRule (n : Node) : Report :=
  n.ethereumHttpEndpoints.zipIdx.flatMap fun (endpoint, i) =>
    schemeRule ((field "ethereumHttpEndpoints").index i) endpoint ["http", "https"]
      "must be an http url (http:// or https://)"

/-- The node has a database. -/
def databaseRule (n : Node) : Report :=
  schemeRule (field "databaseURL") n.databaseUrl ["postgres", "postgresql"]
    "must be a postgres connection url"

/-- The keys of the node have a password. -/
def keystorePasswordRequired (n : Node) : Report :=
  when (n.keystorePasswordSecretName = "") (.required (field "keystorePasswordSecretName") "")

/-- Somebody may use the interface. -/
def credentialsRule (n : Node) : Report :=
  when (!Format.isEmail n.apiCredentials.email)
    (.invalid ((field "apiCredentials").child "email") (.text n.apiCredentials.email)
      "must be a valid email address") ++
  when (n.apiCredentials.passwordSecretName = "")
    (.required ((field "apiCredentials").child "passwordSecretName") "")

/-- What is wrong with an oracle node by itself. -/
def problems (n : Node) : Report :=
  linkContractFormat n ++ wsEndpointRule n ++ httpEndpointsRule n ++ databaseRule n ++
  keystorePasswordRequired n ++ credentialsRule n ++
  capabilities.loggingRule n.client n.logging (field "logging") ++
  n.resources.problems (field "resources")

/-- What changed in an oracle node that must not change. -/
def transitions (old new : Node) : Report :=
  when (old.ethereumChainId ≠ new.ethereumChainId)
    (.immutable (field "ethereumChainId") (.text (toString new.ethereumChainId.toNat))) ++
  when (old.linkContractAddress ≠ new.linkContractAddress)
    (.immutable (field "linkContractAddress") (.text new.linkContractAddress)) ++
  Resources.transitions old.resources new.resources (field "resources")

/-- The home directory of an oracle node. -/
def home : String := "/home/chainlink"

/-- The arguments of an oracle node. -/
def args : List String :=
  ["local", "node", "-p", Home.secret home "keystore-password", "-a",
    Home.secret home "api-credentials"]

/-- Where execution nodes are asked one question at a time. -/
def httpVariables (n : Node) : List (String × EnvValue) :=
  match n.ethereumHttpEndpoints with
  | [] => []
  | [first] => [("ETH_HTTP_URL", .literal first)]
  | first :: others =>
    [("ETH_HTTP_URL", .literal first), ("ETH_SECONDARY_URLS", .literal (Text.joinWith "," others))]

/-- How the node proves who it is. Port 0 means that it does not. -/
def tlsVariables (n : Node) : List (String × EnvValue) :=
  if n.certSecretName.isSome then
    Environment.given "CHAINLINK_TLS_PORT" (n.tlsPort.map fun p => .literal (Arguments.port p)) ++
    [("TLS_CERT_PATH", .literal (Home.secret home "tls-secret/tls.crt")),
      ("TLS_KEY_PATH", .literal (Home.secret home "tls-secret/tls.key"))]
  else [("CHAINLINK_TLS_PORT", .literal "0")]

/-- The environment of an oracle node. -/
def env (n : Node) : Environment :=
  .ofList <|
    [("ROOT", .literal (Home.data home)),
      ("ETH_CHAIN_ID", .literal (toString n.ethereumChainId.toNat)),
      ("ETH_URL", .literal n.ethereumWsEndpoint),
      ("LINK_CONTRACT_ADDRESS", .literal n.linkContractAddress),
      ("DATABASE_URL", .literal n.databaseUrl),
      ("SECURE_COOKIES", .literal (toString n.secureCookies))] ++
    httpVariables n ++
    Environment.given "CHAINLINK_PORT" (n.apiPort.map fun p => .literal (Arguments.port p)) ++
    tlsVariables n ++
    Environment.given "P2P_LISTEN_PORT" (n.p2pPort.map fun p => .literal (Arguments.port p)) ++
    Environment.given "ALLOW_ORIGINS"
      (if n.corsDomains.isEmpty then none
        else some (.literal (Text.joinWith "," n.corsDomains))) ++
    Environment.given "LOG_LEVEL" (n.logging.map fun level => .literal level.name)

/-- How an oracle node is started. -/
def launch (n : Node) : Launch where
  image := n.image.getD n.client.imageSource.builtIn
  command := ["chainlink"]
  args := args
  env := env n
  homeDir := home

/-- The workload of an oracle node of the given name. -/
def workload (name : String) (n : Node) : Workload :=
  .ofLaunch name .chainlinkNode n.client.name "node" n.launch n.resources

end Node

end Nodewright.Oracle
