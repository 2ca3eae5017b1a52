import Nodewright.Execution.Launch.Besu
import Nodewright.Execution.Launch.Geth
import Nodewright.Execution.Launch.Parity

/-! # Workloads of an execution network

One workload for each node, named after the network and the node. -/

namespace Nodewright.Execution

/-- How a client is started for a node. -/
def Client.launch : Client → Chain → Node → Launch
  | besu => Besu.launch
  | geth => Geth.launch
  | parity => Parity.launch

/-- The workload of a node in a network of the given name. -/
def Node.workload (network : String) (c : Chain) (n : Node) : Workload :=
  .ofLaunch (network ++ "-" ++ n.name) .network n.client.name n.role (n.client.launch c n)
    n.resources

/-- The workloads of a network of the given name. -/
def Network.workloads (name : String) (n : Network) : List Workload :=
  n.nodes.map (Node.workload name n.chain)

end Nodewright.Execution
