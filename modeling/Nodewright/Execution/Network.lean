import Nodewright.Execution.Genesis
import Nodewright.Execution.Node

/-! # Execution networks

A network either joins a public chain or starts one of its own; `Chain` says which, and `Network`
adds the nodes. -/

namespace Nodewright.Execution

/-- The chain of a network: a public one to join, or the first block of a new one. -/
structure Chain where
  id : Option UInt64
  join : Option PublicNetwork
  consensus : Option Consensus
  genesis : Option Genesis
deriving DecidableEq

/-- A network of execution nodes. -/
structure Network where
  chain : Chain
  nodes : List Node
deriving DecidableEq

namespace Chain

/-- The members of a chain. -/
def members : Fields Chain Chain :=
  Fields.build mk
    |>.member (.optional "id" .word64) id
    |>.member (.optional "join" (.choice PublicNetwork)) join
    |>.member (.optional "consensus" (.choice Consensus)) consensus
    |>.member (.optional "genesis" Genesis.codec) genesis

/-- A chain as JSON. -/
def codec : Codec Chain := members.codec "NetworkConfig"

/-- The usual values of the first block where none are given. -/
def fill (c : Chain) : Chain := { c with genesis := c.genesis.map (Genesis.fill c.consensus) }

end Chain

namespace Network

/-- The nodes as a member of a network. -/
def nodesMember : Member (List Node) := .defaulted "nodes" (.list Node.codec) []

/-- The title of a network. -/
def title : String := "NetworkSpec"

/-- Reads the nodes of a network from its entries, and then its chain. -/
def decode (setting : Setting) : Json → Except DecodeError Network
  | .object entries =>
    match nodesMember.find setting entries with
    | .error fault => .error fault.error
    | .ok nodes =>
      match Chain.members.find setting entries with
      | .error fault => .error fault.error
      | .ok chain => .ok ⟨chain, nodes⟩
  | v => .error (.wrongType v.outline ("struct " ++ title))

/-- A network as JSON, with the members of its chain in front of its nodes. -/
def codec : Codec Network where
  encode n := .object
    (Chain.members.entries n.chain ++ [("nodes", (Codec.list Node.codec).encode n.nodes)])
  decode := decode

/-- The usual settings of the chain and of every node where none are given. -/
def fill (images : Image.Overrides) (n : Network) : Network where
  chain := n.chain.fill
  nodes := n.nodes.map (Node.fill images)

end Network

end Nodewright.Execution
