import Nodewright.Resources

/-! # Workloads

What is handed to the backend that runs nodes: an image with its command, arguments and
environment, the resources to reserve, and labels to find the node by. Secrets appear in the
environment by their names only. -/

namespace Nodewright

/-- The value of an environment variable. -/
inductive EnvValue where
  | literal (s : String)
  /-- What a secret holds under a key. -/
  | secret (name key : String)
deriving DecidableEq, Repr

/-- An environment. -/
abbrev Environment := Keyed EnvValue

/-- How a node is started. -/
structure Launch where
  image : String
  /-- Empty if the image knows by itself what to start. -/
  command : List String
  args : List String
  env : Environment
  homeDir : String
deriving DecidableEq

/-- One node for the backend to run. -/
structure Workload where
  name : String
  kind : Kind
  client : String
  launch : Launch
  resources : Resources
  labels : Keyed String
deriving DecidableEq

namespace EnvValue

/-- The value of a variable as JSON. -/
def toJson : EnvValue → Json
  | literal s => .object [("literal", .string s)]
  | secret name key =>
    .object [("secretRef", .object [("name", .string name), ("key", .string key)])]

end EnvValue

namespace Environment

/-- The variable, if it has a value. -/
def given (name : String) (value : Option EnvValue) : List (String × EnvValue) :=
  match value with
  | some v => [(name, v)]
  | none => []

/-- The environment of the settings, of which the last one of a name counts. -/
def ofList (settings : List (String × EnvValue)) : Environment := Keyed.ofEntries settings

end Environment

namespace Launch

/-- How a node is started, as JSON. -/
def toJson (l : Launch) : Json := .object [
  ("image", .string l.image),
  ("command", .ofTexts l.command),
  ("args", .ofTexts l.args),
  ("env", .object (l.env.entries.map fun e => (e.1, e.2.toJson))),
  ("homeDir", .string l.homeDir)]

end Launch

namespace Workload

/-- The labels of a node of a kind that plays a role. -/
def labelsOf (name : String) (kind : Kind) (client role : String) : Keyed String :=
  Keyed.ofEntries [
    ("app.kubernetes.io/name", kind.lowerName),
    ("app.kubernetes.io/instance", name),
    ("app.kubernetes.io/component", role),
    ("kotal.io/protocol", kind.protocol),
    ("kotal.io/client", client)]

/-- A node of a kind that plays a role. -/
def ofLaunch (name : String) (kind : Kind) (client role : String) (launch : Launch)
    (resources : Resources) : Workload where
  name := name
  kind := kind
  client := client
  launch := launch
  resources := resources
  labels := labelsOf name kind client role

/-- A workload as JSON. -/
def toJson (w : Workload) : Json := .object [
  ("name", .string w.name),
  ("kind", .string w.kind.name),
  ("client", .string w.client),
  ("command", w.launch.toJson),
  ("resources", Resources.codec.encode w.resources),
  ("labels", .object (w.labels.entries.map fun e => (e.1, .string e.2)))]

end Workload

end Nodewright
