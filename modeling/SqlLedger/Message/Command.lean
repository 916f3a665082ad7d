/-
The command catalog.

Nodes understand a fixed set of commands, each under a short name that a frame carries. Two
properties belong to the command and not to the caller: whether the receiving node demands the
authorization token, and whether it writes an answer before it closes the connection.
-/

import SqlLedger.NetworkError

namespace SqlLedger

/-- The commands nodes understand. -/
inductive Command
  /-- A list of known nodes. -/
  | addresses
  /-- Asks for the first blocks of the chain. -/
  | firstBlocks
  /-- Asks for the rules the chain is kept by. -/
  | consensusData
  /-- Asks for one block. -/
  | fetchBlock
  /-- Delivers one block. -/
  | deliverBlock
  /-- Asks for the blocks below one. -/
  | blocksBelow
  /-- Asks for the blocks above one. -/
  | blocksAbove
  /-- Announces blocks or transactions by their ids. -/
  | announce
  /-- Asks for an announced item. -/
  | fetchItem
  /-- Delivers one transaction. -/
  | deliverTransaction
  /-- States protocol version and chain height. -/
  | version
  /-- Asks for one transaction. -/
  | fetchTransaction
  /-- Asks whether a block is known. -/
  | checkBlock
  /-- Asks for the balance of a wallet. -/
  | balance
  /-- Asks for the unspent outputs of a wallet. -/
  | unspent
  /-- Asks for the transactions of a wallet. -/
  | history
  /-- Submits a signed transaction. -/
  | submitTransaction
  /-- Asks for a currency transfer to be prepared. -/
  | prepareTransfer
  /-- Asks for a statement to be prepared as a transaction. -/
  | prepareStatement
  /-- Asks for the state of the node. -/
  | nodeState
  /-- Asks for everything new since a given time. -/
  | updates
  /-- Asks for the nodes that the node knows. -/
  | nodes
  /-- Adds a node to the node list. -/
  | addNode
  /-- Removes a node from the node list. -/
  | removeNode
  /-- Carries nothing; a stopping node sends it to itself. -/
  | void
  deriving DecidableEq, Repr

namespace Command

/-- The catalog, in its order. -/
def all : List Command :=
  [addresses, firstBlocks, consensusData, fetchBlock, deliverBlock, blocksBelow, blocksAbove,
    announce, fetchItem, deliverTransaction, version, fetchTransaction, checkBlock, balance,
    unspent, history, submitTransaction, prepareTransfer, prepareStatement, nodeState, updates,
    nodes, addNode, removeNode, void]

/-- The name that a frame carries. -/
def name : Command → String
  | addresses => "addr"
  | firstBlocks => "getfblocks"
  | consensusData => "getcnsdata"
  | fetchBlock => "getblock"
  | deliverBlock => "block"
  | blocksBelow => "getblocks"
  | blocksAbove => "getblocksup"
  | announce => "inv"
  | fetchItem => "getdata"
  | deliverTransaction => "tx"
  | version => "version"
  | fetchTransaction => "gettransact"
  | checkBlock => "checkblock"
  | balance => "getbalance"
  | unspent => "getunspent"
  | history => "gethistory"
  | submitTransaction => "txdata"
  | prepareTransfer => "txcurrequest"
  | prepareStatement => "txsqlrequest"
  | nodeState => "getstate"
  | updates => "getupdates"
  | nodes => "getnodes"
  | addNode => "addnode"
  | removeNode => "removenode"
  | void => "void"

/-- Commands that the receiving node carries out only with the authorization token. -/
def requiresAuth : Command → Bool
  | addNode | removeNode | nodeState => true
  | _ => false

/-- Commands that are answered before the connection is closed. -/
def waitsResponse : Command → Bool
  | addresses | deliverBlock | blocksBelow | blocksAbove | announce | fetchItem
  | deliverTransaction | version | void => false
  | _ => true

/-- The command of a name; only the exact name counts. -/
def ofName (name : String) : Except NetworkError Command :=
  match all.find? fun command => command.name = name with
  | some command => .ok command
  | none => .error (.unknownCommand name)

/-- The catalog leaves no command out. -/
theorem mem_all (command : Command) : command ∈ all := by
  cases command <;> decide

end Command

end SqlLedger
