import Nodewright.Verbosity
import Nodewright.Violation

/-! # Capabilities of clients

A registry lists the clients of a kind with the features that each of them has. What it does not
list is not supported.

* `Registry.supports`   whether a client has a feature
* `Registry.supporting`   the clients that have it, in the order of the registry
* `Registry.loggingRule`   the rule that a client knows its level of logging -/

namespace Nodewright

/-- What a client may be able to do. -/
inductive Feature where
  | rpc
  | ws
  | graphql
  | rest
  | grpc
  | tls
  | checkpointSync
  | multipleBeaconEndpoints
  | mining
  | importAccount
  | fixedDifficulty
  | proofOfWork
  | proofOfAuthority
  | istanbulBft
  | lightSync
  | logging (level : Verbosity)
deriving DecidableEq, Repr

/-- The name of a feature; of logging, with the level behind a colon. -/
def Feature.name : Feature → String
  | rpc => "Rpc"
  | ws => "Ws"
  | graphql => "GraphQl"
  | rest => "Rest"
  | grpc => "Grpc"
  | tls => "Tls"
  | checkpointSync => "CheckpointSync"
  | multipleBeaconEndpoints => "MultipleBeaconEndpoints"
  | mining => "Mining"
  | importAccount => "ImportAccount"
  | fixedDifficulty => "FixedDifficulty"
  | proofOfWork => "ProofOfWork"
  | proofOfAuthority => "ProofOfAuthority"
  | istanbulBft => "IstanbulBft"
  | lightSync => "LightSync"
  | logging level => "Logging:" ++ level.name

/-- Every feature. -/
def Feature.all : List Feature :=
  [rpc, ws, graphql, rest, grpc, tls, checkpointSync, multipleBeaconEndpoints, mining,
    importAccount, fixedDifficulty, proofOfWork, proofOfAuthority, istanbulBft, lightSync] ++
    (Named.all : List Verbosity).map logging

/-- The clients of a kind, with the features that each of them has. -/
structure Registry (α : Type) where
  entries : List (α × List Feature)

namespace Registry

variable {α : Type}

/-- Whether the registry lists the feature with the first entry of the client. -/
def supports [DecidableEq α] (r : Registry α) (client : α) (feature : Feature) : Bool :=
  match r.entries.find? fun e => e.1 = client with
  | some (_, features) => features.contains feature
  | none => false

/-- The clients that have a feature, in the order of the registry. -/
def supporting (r : Registry α) (feature : Feature) : List α :=
  (r.entries.filter fun e => e.2.contains feature).map (·.1)

/-- The clients that have a feature, as a choice. -/
def choice [Named α] (r : Registry α) (feature : Feature) : String :=
  Text.alternatives ((r.supporting feature).map Named.name)

/-- A client must know the level of logging that is asked of it. -/
def loggingRule [DecidableEq α] [Named α] (r : Registry α) (client : α)
    (level : Option Verbosity) (field : FieldPath) : Report :=
  Report.ofSome level fun level =>
    Report.when (!r.supports client (.logging level))
      (.invalid field (.text level.name) ("not supported by client " ++ Named.name client))

end Registry

end Nodewright
