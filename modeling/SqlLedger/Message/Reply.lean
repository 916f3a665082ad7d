/-
What successful answers carry.

An answer has no name of its own: its shape is the one that the command it answers calls for. The
records list their fields in the order in which they are written. Texts in them come from the far
end and may be anything; amounts keep every bit.
-/

import SqlLedger.NodeAddress

namespace SqlLedger

/-- The first blocks of the chain and its height. -/
structure FirstBlocks where
  blocks : List Bytes
  height : Int64
  deriving DecidableEq, Repr

/-- The rules that the chain is kept by: a configuration and a module. -/
structure ConsensusData where
  configuration : Bytes
  rules : Bytes
  deriving DecidableEq, Repr

/-- A balance, as settled, as still waiting, and both together. -/
structure Balance where
  total : Double
  approved : Double
  pending : Double
  deriving DecidableEq, Repr

/-- An output that a wallet may spend. -/
structure UnspentOutput where
  transaction : Bytes
  index : Int64
  amount : Double
  isCoinbase : Bool
  origin : String
  deriving DecidableEq, Repr

/-- The outputs a wallet may spend, and the block up to which they are known. -/
structure UnspentOutputs where
  outputs : List UnspentOutput
  lastBlock : Bytes
  deriving DecidableEq, Repr

/-- One transaction of a wallet, seen from the wallet. -/
structure HistoryEntry where
  outgoing : Bool
  transaction : Bytes
  amount : Double
  payer : String
  payee : String
  deriving DecidableEq, Repr

/-- A transaction prepared for signing; a finished one has nothing to sign. -/
structure PreparedTransaction where
  finished : Bool
  transaction : Bytes
  dataToSign : Bytes
  deriving DecidableEq, Repr

/-- The state of a node. -/
structure NodeState where
  host : String
  blocks : Int64
  expectedHeight : Int64
  cachedTransactions : Int64
  unspentOutputs : Int64
  deriving DecidableEq, Repr

/-- What is new on a node. -/
structure Updates where
  height : Int64
  pooledCount : Int64
  blocks : List Bytes
  pooled : List Bytes
  nodes : List NodeAddress
  deriving DecidableEq, Repr

/-! ### Their layouts -/

namespace Codec

/-- The first blocks: the blocks, then the height. -/
def firstBlocks : Codec FirstBlocks :=
  along (fun value => (value.blocks, value.height)) (fun (blocks, height) => ⟨blocks, height⟩)
    (pair (list octets) signed64)

/-- Consensus data: the configuration, then the module. -/
def consensusData : Codec ConsensusData :=
  along (fun value => (value.configuration, value.rules))
    (fun (configuration, rules) => ⟨configuration, rules⟩)
    (pair block block)

/-- A balance: total, approved, pending. -/
def balance : Codec Balance :=
  along (fun value => (value.total, value.approved, value.pending))
    (fun (total, approved, pending) => ⟨total, approved, pending⟩)
    (pair double (pair double double))

/-- An unspent output: transaction, index, amount, coinbase flag, origin. -/
def unspentOutput : Codec UnspentOutput :=
  along
    (fun value => (value.transaction, value.index, value.amount, value.isCoinbase, value.origin))
    (fun (transaction, index, amount, isCoinbase, origin) =>
      ⟨transaction, index, amount, isCoinbase, origin⟩)
    (pair block (pair signed64 (pair double (pair flag text))))

/-- Unspent outputs: the outputs, then the last block. -/
def unspentOutputs : Codec UnspentOutputs :=
  along (fun value => (value.outputs, value.lastBlock))
    (fun (outputs, lastBlock) => ⟨outputs, lastBlock⟩)
    (pair (list unspentOutput) block)

/-- A history entry: direction, transaction, amount, payer, payee. -/
def historyEntry : Codec HistoryEntry :=
  along (fun value => (value.outgoing, value.transaction, value.amount, value.payer, value.payee))
    (fun (outgoing, transaction, amount, payer, payee) =>
      ⟨outgoing, transaction, amount, payer, payee⟩)
    (pair flag (pair block (pair double (pair text text))))

/-- A prepared transaction: the flag, the transaction, then the data to sign. -/
def preparedTransaction : Codec PreparedTransaction :=
  along (fun value => (value.finished, value.transaction, value.dataToSign))
    (fun (finished, transaction, dataToSign) => ⟨finished, transaction, dataToSign⟩)
    (pair flag (pair block block))

/-- The state of a node: the host, then the four counts. -/
def nodeState : Codec NodeState :=
  along
    (fun value => (value.host, value.blocks, value.expectedHeight, value.cachedTransactions,
      value.unspentOutputs))
    (fun (host, blocks, expectedHeight, cachedTransactions, unspentOutputs) =>
      ⟨host, blocks, expectedHeight, cachedTransactions, unspentOutputs⟩)
    (pair text (pair signed64 (pair signed64 (pair signed64 signed64))))

/-- Updates: the height, the size of the pool, the blocks, the pool, then the nodes. -/
def updates : Codec Updates :=
  along (fun value => (value.height, value.pooledCount, value.blocks, value.pooled, value.nodes))
    (fun (height, pooledCount, blocks, pooled, nodes) =>
      ⟨height, pooledCount, blocks, pooled, nodes⟩)
    (pair signed64 (pair signed64 (pair (list octets) (pair (list octets)
      (list NodeAddress.codec)))))

end Codec

end SqlLedger
