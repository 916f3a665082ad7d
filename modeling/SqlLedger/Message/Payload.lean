/-
Payloads: a command together with what it carries.

The catalog decides the shape of a payload and the shape of its answer, so both are families of
types indexed by the command, and the two tables of codecs below are total over the catalog. A
payload is read back only together with the command that its frame names; octets behind it are
ignored.
-/

import SqlLedger.Message.Command
import SqlLedger.Message.Reply
import SqlLedger.Message.Request

namespace SqlLedger

namespace Command

/-- What a request with this command carries. -/
abbrev Fields : Command → Type
  | addresses => AddressList
  | firstBlocks | consensusData | nodeState | nodes | void => Unit
  | fetchBlock | checkBlock => BlockQuery
  | deliverBlock => BlockDelivery
  | blocksBelow | blocksAbove => BlockRange
  | announce => Announcement
  | fetchItem => ItemQuery
  | deliverTransaction => TransactionDelivery
  | version => VersionNotice
  | fetchTransaction => TransactionQuery
  | balance | history => WalletQuery
  | unspent => UnspentQuery
  | submitTransaction => SignedTransaction
  | prepareTransfer => TransferOrder
  | prepareStatement => StatementOrder
  | updates => UpdateQuery
  | addNode | removeNode => NodeAddress

/-- The layout of what a request with this command carries. -/
def fieldsCodec : (command : Command) → Codec command.Fields
  | addresses => .addressList
  | firstBlocks | consensusData | nodeState | nodes | void => .nothing
  | fetchBlock | checkBlock => .blockQuery
  | deliverBlock => .blockDelivery
  | blocksBelow | blocksAbove => .blockRange
  | announce => .announcement
  | fetchItem => .itemQuery
  | deliverTransaction => .transactionDelivery
  | version => .versionNotice
  | fetchTransaction => .transactionQuery
  | balance | history => .walletQuery
  | unspent => .unspentQuery
  | submitTransaction => .signedTransaction
  | prepareTransfer => .transferOrder
  | prepareStatement => .statementOrder
  | updates => .updateQuery
  | addNode | removeNode => NodeAddress.codec

/-- What a successful answer to this command carries. An answer that is a mere confirmation
carries nothing, and so does the answer that a command does not have. -/
abbrev Reply : Command → Type
  | firstBlocks => FirstBlocks
  | consensusData => ConsensusData
  | fetchBlock | fetchTransaction | submitTransaction => Bytes
  | checkBlock => Bool
  | balance => Balance
  | unspent => UnspentOutputs
  | history => List HistoryEntry
  | prepareTransfer | prepareStatement => PreparedTransaction
  | nodeState => NodeState
  | updates => Updates
  | nodes => List NodeAddress
  | addNode | removeNode | addresses | deliverBlock | blocksBelow | blocksAbove | announce
  | fetchItem | deliverTransaction | version | void => Unit

/-- The layout of a successful answer to this command. The id that answers a submitted transaction
is read octet by octet, unlike a requested block or transaction. -/
def replyCodec : (command : Command) → Codec command.Reply
  | firstBlocks => .firstBlocks
  | consensusData => .consensusData
  | fetchBlock | fetchTransaction => .block
  | submitTransaction => .octets
  | checkBlock => .flag
  | balance => .balance
  | unspent => .unspentOutputs
  | history => .list .historyEntry
  | prepareTransfer | prepareStatement => .preparedTransaction
  | nodeState => .nodeState
  | updates => .updates
  | nodes => .list NodeAddress.codec
  | addNode | removeNode | addresses | deliverBlock | blocksBelow | blocksAbove | announce
  | fetchItem | deliverTransaction | version | void => .nothing

end Command

/-- A command with what it carries. -/
structure Payload where
  /-- Decides the shape of the rest. -/
  command : Command
  /-- What the command carries. -/
  fields : command.Fields

namespace Payload

/-- The octets of a payload; the command is not among them, as the frame names it. -/
def encode (payload : Payload) : Bytes :=
  payload.command.fieldsCodec.write payload.fields

/-- The payloads whose lengths fit their length words. -/
def Fits (payload : Payload) : Prop :=
  payload.command.fieldsCodec.Fits payload.fields

/-- Reads the payload of a command. -/
def decode (command : Command) (bytes : Bytes) : Except NetworkError Payload :=
  match command.fieldsCodec.decode bytes with
  | .ok fields => .ok ⟨command, fields⟩
  | .error fault => .error (.malformedEnvelope s!"{command.name} payload: {fault.message}")

end Payload

end SqlLedger
