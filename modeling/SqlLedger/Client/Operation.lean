/-
What a client can ask of nodes.

An operation is one call with its arguments. It determines the payload, in which every sender is
the client's own node, the target, which for management is that node whatever the caller says, and
the way its answer is taken (`Delivery`). Which commands are answered is known to the catalog as
well; that the two agree is a theorem to have, not a definition.
-/

import SqlLedger.Client.Exchange
import SqlLedger.Client.Settings
import SqlLedger.Envelope.Frame
import SqlLedger.Message.Payload

namespace SqlLedger

/-- One call of a client, with its arguments. -/
inductive Operation
  /-- Unblocks a node that is stopping. -/
  | sendVoid
  | sendAddresses (addresses : List NodeAddress)
  | fetchBlock (hash : Bytes)
  | sendBlock (block : Bytes)
  | announce (kind : ItemKind) (items : List Bytes)
  | blocksBelow (start : Bytes)
  | blocksAbove (start : Bytes)
  | firstBlocks
  | consensusData
  | fetchItem (kind : ItemKind) (id : Bytes)
  | fetchTransaction (id : Bytes)
  | checkBlock (hash : Bytes)
  | sendTransaction (transaction : Bytes)
  | sendVersion (height : Int64)
  | updates (since height : Int64) (topBlocks : List Bytes)
  | history (wallet : String)
  | submitTransaction (wallet : String) (transaction signature : Bytes)
  | prepareTransfer (publicKey : Bytes) (recipient : String) (amount : Double)
  | prepareStatement (publicKey : Bytes) (sql : String)
  | unspent (wallet : String) (chainTip : Bytes)
  | balance (wallet : String)
  | nodes
  | addNode (node : NodeAddress)
  | removeNode (node : NodeAddress)
  | nodeState
  deriving DecidableEq, Repr

/-- How the answer of a call is taken: not at all, as a mere confirmation, or as a value of the
answer's type `ρ` that is then viewed as what the caller gets. -/
inductive Delivery (ρ α : Type)
  | posted (done : α)
  | confirmed (done : α)
  | answered (view : ρ → α)

namespace Operation

/-- The payload of a call made by a client whose own node is `home`. -/
def payload [Build] (home : NodeAddress) : Operation → Payload
  | sendVoid => ⟨.void, ()⟩
  | sendAddresses addresses => ⟨.addresses, { sender := home, addresses }⟩
  | fetchBlock hash => ⟨.fetchBlock, { hash, sender := home }⟩
  | sendBlock block => ⟨.deliverBlock, { sender := home, block }⟩
  | announce kind items => ⟨.announce, { sender := home, kind, items }⟩
  | blocksBelow start => ⟨.blocksBelow, { sender := home, start }⟩
  | blocksAbove start => ⟨.blocksAbove, { sender := home, start }⟩
  | firstBlocks => ⟨.firstBlocks, ()⟩
  | consensusData => ⟨.consensusData, ()⟩
  | fetchItem kind id => ⟨.fetchItem, { sender := home, kind, id }⟩
  | fetchTransaction id => ⟨.fetchTransaction, { id, sender := home }⟩
  | checkBlock hash => ⟨.checkBlock, { hash, sender := home }⟩
  | sendTransaction transaction => ⟨.deliverTransaction, { sender := home, transaction }⟩
  | sendVersion height =>
    ⟨.version, { version := VersionNotice.current, height, sender := home }⟩
  | updates since height topBlocks => ⟨.updates, { since, height, topBlocks, sender := home }⟩
  | history wallet => ⟨.history, { wallet }⟩
  | submitTransaction wallet transaction signature =>
    ⟨.submitTransaction, { wallet, transaction, signature }⟩
  | prepareTransfer publicKey recipient amount =>
    ⟨.prepareTransfer, { publicKey, recipient, amount }⟩
  | prepareStatement publicKey sql => ⟨.prepareStatement, { publicKey, sql }⟩
  | unspent wallet chainTip => ⟨.unspent, { wallet, lastBlock := chainTip }⟩
  | balance wallet => ⟨.balance, { wallet }⟩
  | nodes => ⟨.nodes, ()⟩
  | addNode node => ⟨.addNode, node⟩
  | removeNode node => ⟨.removeNode, node⟩
  | nodeState => ⟨.nodeState, ()⟩

/-- The catalog command of a call. -/
abbrev command : Operation → Command
  | sendVoid => .void
  | sendAddresses _ => .addresses
  | fetchBlock _ => .fetchBlock
  | sendBlock _ => .deliverBlock
  | announce .. => .announce
  | blocksBelow _ => .blocksBelow
  | blocksAbove _ => .blocksAbove
  | firstBlocks => .firstBlocks
  | consensusData => .consensusData
  | fetchItem .. => .fetchItem
  | fetchTransaction _ => .fetchTransaction
  | checkBlock _ => .checkBlock
  | sendTransaction _ => .deliverTransaction
  | sendVersion _ => .version
  | updates .. => .updates
  | history _ => .history
  | submitTransaction .. => .submitTransaction
  | prepareTransfer .. => .prepareTransfer
  | prepareStatement .. => .prepareStatement
  | unspent .. => .unspent
  | balance _ => .balance
  | nodes => .nodes
  | addNode _ => .addNode
  | removeNode _ => .removeNode
  | nodeState => .nodeState

/-- The payload carries the command of the call. -/
@[simp]
theorem command_payload [Build] (home : NodeAddress) (operation : Operation) :
    (operation.payload home).command = operation.command := by
  cases operation <;> rfl

/-- What a caller gets from a call that succeeds. -/
abbrev Answer : Operation → Type
  | sendVoid | sendAddresses _ | sendBlock _ | announce .. | blocksBelow _ | blocksAbove _
  | fetchItem .. | sendTransaction _ | sendVersion _ | addNode _ | removeNode _ => Unit
  | fetchBlock _ | fetchTransaction _ | submitTransaction .. => Bytes
  | firstBlocks => FirstBlocks
  | consensusData => ConsensusData
  | checkBlock _ => Bool
  | updates .. => Updates
  | history _ => List HistoryEntry
  | prepareTransfer .. => Bytes × Bytes
  | prepareStatement .. => PreparedTransaction
  | unspent .. => UnspentOutputs
  | balance _ => Balance
  | nodes => List NodeAddress
  | nodeState => NodeState

/-- How the answer of a call is taken. A prepared transfer always has something to sign, so its
caller gets the transaction and the data to sign without the flag. -/
def delivery : (operation : Operation) → Delivery operation.command.Reply operation.Answer
  | sendVoid | sendAddresses _ | sendBlock _ | announce .. | blocksBelow _ | blocksAbove _
  | fetchItem .. | sendTransaction _ | sendVersion _ => .posted ()
  | addNode _ | removeNode _ => .confirmed ()
  | prepareTransfer .. => .answered fun prepared => (prepared.transaction, prepared.dataToSign)
  | fetchBlock _ | fetchTransaction _ | submitTransaction .. | firstBlocks | consensusData
  | checkBlock _ | updates .. | history _ | prepareStatement .. | unspent .. | balance _ | nodes
  | nodeState => .answered id

/-- Calls that manage a node go to the client's own node only. -/
def isManagement : Operation → Bool
  | nodes | addNode _ | removeNode _ | nodeState => true
  | _ => false

end Operation

end SqlLedger
