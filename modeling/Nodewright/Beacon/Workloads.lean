import Nodewright.Beacon.Launch.Lighthouse
import Nodewright.Beacon.Launch.Nimbus
import Nodewright.Beacon.Launch.Prysm
import Nodewright.Beacon.Launch.Teku

/-! # Workloads of beacon nodes and validators

One workload for each spec, of the same name. -/

namespace Nodewright.Beacon

/-- How a client is started as a beacon node. -/
def Client.nodeLaunch : Client → Node → Launch
  | teku => Teku.nodeLaunch
  | prysm => Prysm.nodeLaunch
  | lighthouse => Lighthouse.nodeLaunch
  | nimbus => Nimbus.nodeLaunch

/-- How a client is started as a validator. -/
def Client.validatorLaunch : Client → Validator → Launch
  | teku => Teku.validatorLaunch
  | prysm => Prysm.validatorLaunch
  | lighthouse => Lighthouse.validatorLaunch
  | nimbus => Nimbus.validatorLaunch

/-- The workload of a beacon node of the given name. -/
def Node.workload (name : String) (n : Node) : Workload :=
  .ofLaunch name .beaconNode n.client.name "beacon-node" (n.client.nodeLaunch n) n.resources

/-- The workload of a validator of the given name. -/
def Validator.workload (name : String) (v : Validator) : Workload :=
  .ofLaunch name .validator v.client.name "validator" (v.client.validatorLaunch v) v.resources

end Nodewright.Beacon
