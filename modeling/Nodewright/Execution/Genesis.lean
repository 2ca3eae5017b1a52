import Nodewright.Execution.Forks
import Nodewright.Execution.Vocabulary

/-! # The first block of a network

What a network of one's own starts with: its chain, the parameters of its consensus rule, accounts
that own something from the start, and the schedule of forks. -/

namespace Nodewright.Execution

/-- Parameters of proof of authority. -/
structure Clique where
  blockPeriod : Option UInt32
  epochLength : Option UInt64
  signers : List String
deriving DecidableEq

/-- Parameters of byzantine fault tolerance. -/
structure Ibft2 where
  blockPeriod : Option UInt32
  epochLength : Option UInt64
  requestTimeout : Option UInt32
  messageQueueLimit : Option UInt32
  duplicateMessageLimit : Option UInt32
  futureMessagesLimit : Option UInt32
  futureMessagesMaxDistance : Option UInt32
  validators : List String
deriving DecidableEq

/-- Parameters of proof of work. -/
structure Ethash where
  fixedDifficulty : Option UInt64
deriving DecidableEq

/-- An account that owns something from the start. -/
structure Account where
  address : String
  balance : Option String
  code : Option String
deriving DecidableEq

/-- The first block of a network. -/
structure Genesis where
  chainId : UInt64
  coinbase : Option String
  difficulty : Option String
  mixHash : Option String
  gasLimit : Option String
  nonce : Option String
  timestamp : Option String
  accounts : List Account
  forks : Option ForkSchedule
  clique : Option Clique
  ibft2 : Option Ibft2
  ethash : Option Ethash
deriving DecidableEq

namespace Clique

/-- No parameter at all. -/
def empty : Clique := ⟨none, none, []⟩

/-- Parameters of proof of authority as JSON. -/
def codec : Codec Clique :=
  (Fields.build mk
    |>.member (.optional "blockPeriod" .word32) blockPeriod
    |>.member (.optional "epochLength" .word64) epochLength
    |>.member (.listing "signers" .text) signers).codec "Clique"

/-- The usual parameters where none are given. -/
def fill (c : Clique) : Clique where
  blockPeriod := some (c.blockPeriod.getD 15)
  epochLength := some (c.epochLength.getD 3000)
  signers := c.signers

end Clique

namespace Ibft2

/-- No parameter at all. -/
def empty : Ibft2 := ⟨none, none, none, none, none, none, none, []⟩

/-- Parameters of byzantine fault tolerance as JSON. -/
def codec : Codec Ibft2 :=
  (Fields.build mk
    |>.member (.optional "blockPeriod" .word32) blockPeriod
    |>.member (.optional "epochLength" .word64) epochLength
    |>.member (.optional "requestTimeout" .word32) requestTimeout
    |>.member (.optional "messageQueueLimit" .word32) messageQueueLimit
    |>.member (.optional "duplicateMessageLimit" .word32) duplicateMessageLimit
    |>.member (.optional "futureMessagesLimit" .word32) futureMessagesLimit
    |>.member (.optional "futureMessagesMaxDistance" .word32) futureMessagesMaxDistance
    |>.member (.listing "validators" .text) validators).codec "Ibft2"

/-- The usual parameters where none are given. -/
def fill (i : Ibft2) : Ibft2 where
  blockPeriod := some (i.blockPeriod.getD 15)
  epochLength := some (i.epochLength.getD 3000)
  requestTimeout := some (i.requestTimeout.getD 10)
  messageQueueLimit := some (i.messageQueueLimit.getD 1000)
  duplicateMessageLimit := some (i.duplicateMessageLimit.getD 100)
  futureMessagesLimit := some (i.futureMessagesLimit.getD 1000)
  futureMessagesMaxDistance := some (i.futureMessagesMaxDistance.getD 10)
  validators := i.validators

end Ibft2

namespace Ethash

/-- No parameter at all. -/
def empty : Ethash := ⟨none⟩

/-- Parameters of proof of work as JSON. -/
def codec : Codec Ethash :=
  (Fields.build mk
    |>.member (.optional "fixedDifficulty" .word64) fixedDifficulty).codec "Ethash"

end Ethash

namespace Account

/-- An account as JSON. -/
def codec : Codec Account :=
  (Fields.build mk
    |>.member (.required "address" .text) address
    |>.member (.optional "balance" .text) balance
    |>.member (.optional "code" .text) code).codec "Account"

end Account

namespace Genesis

/-- The chain of the main network, which no other network may use. -/
def mainnetChainId : UInt64 := 1

/-- The first block as JSON. -/
def codec : Codec Genesis :=
  (Fields.build mk
    |>.member (.required "chainId" .word64) chainId
    |>.member (.optional "coinbase" .text) coinbase
    |>.member (.optional "difficulty" .text) difficulty
    |>.member (.optional "mixHash" .text) mixHash
    |>.member (.optional "gasLimit" .text) gasLimit
    |>.member (.optional "nonce" .text) nonce
    |>.member (.optional "timestamp" .text) timestamp
    |>.member (.listing "accounts" Account.codec) accounts
    |>.member (.optional "forks" ForkSchedule.codec) forks
    |>.member (.optional "clique" Clique.codec) clique
    |>.member (.optional "ibft2" Ibft2.codec) ibft2
    |>.member (.optional "ethash" Ethash.codec) ethash).codec "Genesis"

/-- Whether the parameters of some consensus rule are given. -/
def hasConsensusBlock (g : Genesis) : Bool :=
  g.clique.isSome || g.ibft2.isSome || g.ethash.isSome

/-- Adds the block of the consensus rule if no such block is there. A block of another rule stays,
    for the rules to report. -/
def withConsensusBlock (consensus : Option Consensus) (g : Genesis) : Genesis :=
  if g.hasConsensusBlock then g
  else
    match consensus with
    | some .proofOfWork => { g with ethash := some .empty }
    | some .proofOfAuthority => { g with clique := some .empty }
    | some .istanbulBft => { g with ibft2 := some .empty }
    | none => g

/-- The usual values where none are given, but for the consensus rule. -/
def fillHeader (g : Genesis) : Genesis :=
  { g with
    coinbase := some (g.coinbase.getD "0x0000000000000000000000000000000000000000")
    difficulty := some (g.difficulty.getD "0x1")
    mixHash := some (g.mixHash.getD
      "0x0000000000000000000000000000000000000000000000000000000000000000")
    gasLimit := some (g.gasLimit.getD "0x47b760")
    nonce := some (g.nonce.getD "0x0")
    timestamp := some (g.timestamp.getD "0x0")
    forks := some (g.forks.getD .empty).fill }

/-- The usual values where none are given. -/
def fill (consensus : Option Consensus) (g : Genesis) : Genesis :=
  let g := g.fillHeader.withConsensusBlock consensus
  { g with clique := g.clique.map Clique.fill, ibft2 := g.ibft2.map Ibft2.fill }

/-- The difficulty that the chain starts with and keeps, if it keeps one. -/
def fixedDifficulty (g : Genesis) : Option UInt64 := g.ethash.bind Ethash.fixedDifficulty

end Genesis

end Nodewright.Execution
