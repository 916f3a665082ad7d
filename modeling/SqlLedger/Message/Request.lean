/-
What requests carry.

Each kind of request has a record of its own, with the fields in the order in which they are
written; requests of one shape share a record. Commands that travel between nodes carry the
address of the sender, where answers that come as commands of their own are to be sent.
-/

import SqlLedger.NodeAddress

namespace SqlLedger

/-- What an announced or requested item is. -/
inductive ItemKind
  | block
  | transaction
  deriving DecidableEq, Repr

/-- A kind is written as its index in a word of four octets. -/
def ItemKind.codec : Codec ItemKind where
  write
    | .block => Codec.word32.write 0
    | .transaction => Codec.word32.write 1
  read bytes :=
    match Codec.word32.read bytes with
    | .error fault => .error fault
    | .ok (index, rest) =>
      if index = 0 then .ok (.block, rest)
      else if index = 1 then .ok (.transaction, rest)
      else .error (.badChoice index)
  Fits _ := True

/-! ### Between nodes -/

/-- A list of known nodes. -/
structure AddressList where
  sender : NodeAddress
  addresses : List NodeAddress
  deriving DecidableEq, Repr

/-- Asks for a block, or whether it is known. -/
structure BlockQuery where
  hash : Bytes
  sender : NodeAddress
  deriving DecidableEq, Repr

/-- Brings a block. -/
structure BlockDelivery where
  sender : NodeAddress
  block : Bytes
  deriving DecidableEq, Repr

/-- Asks for the blocks on one side of a block. -/
structure BlockRange where
  sender : NodeAddress
  start : Bytes
  deriving DecidableEq, Repr

/-- Announces items by their ids. -/
structure Announcement where
  sender : NodeAddress
  kind : ItemKind
  items : List Bytes
  deriving DecidableEq, Repr

/-- Asks for an announced item. -/
structure ItemQuery where
  sender : NodeAddress
  kind : ItemKind
  id : Bytes
  deriving DecidableEq, Repr

/-- Brings a transaction. -/
structure TransactionDelivery where
  sender : NodeAddress
  transaction : Bytes
  deriving DecidableEq, Repr

/-- States the protocol version and the height of the sender's chain. -/
structure VersionNotice where
  version : Int64
  height : Int64
  sender : NodeAddress
  deriving DecidableEq, Repr

/-- What is settled when a program is built, so that a node and the wallets built with it agree: the
protocol version that they state. -/
class Build where
  version : Int64

/-- A build that does not ask for another version has the first one. -/
instance : Build where
  version := 1

/-- The protocol version that a program states. -/
def VersionNotice.current [Build] : Int64 := Build.version

/-- Asks for a transaction. -/
structure TransactionQuery where
  id : Bytes
  sender : NodeAddress
  deriving DecidableEq, Repr

/-- Asks for what is new since a time and a height, given the topmost blocks already known. -/
structure UpdateQuery where
  since : Int64
  height : Int64
  topBlocks : List Bytes
  sender : NodeAddress
  deriving DecidableEq, Repr

/-! ### From wallets -/

/-- Asks about a wallet, by its address. -/
structure WalletQuery where
  wallet : String
  deriving DecidableEq, Repr

/-- Asks for the unspent outputs of a wallet that knows the chain up to a block. -/
structure UnspentQuery where
  wallet : String
  lastBlock : Bytes
  deriving DecidableEq, Repr

/-- A transaction with its signature. -/
structure SignedTransaction where
  wallet : String
  transaction : Bytes
  signature : Bytes
  deriving DecidableEq, Repr

/-- Asks for a transfer of an amount to be prepared for signing. -/
structure TransferOrder where
  publicKey : Bytes
  recipient : String
  amount : Double
  deriving DecidableEq, Repr

/-- Asks for a statement to be prepared for signing. -/
structure StatementOrder where
  publicKey : Bytes
  sql : String
  deriving DecidableEq, Repr

/-! ### Their layouts -/

namespace Codec

/-- An address list: the sender, then the list. -/
def addressList : Codec AddressList :=
  along (fun value => (value.sender, value.addresses))
    (fun (sender, addresses) => ⟨sender, addresses⟩)
    (pair NodeAddress.codec (list NodeAddress.codec))

/-- A block query: the hash, then the sender. -/
def blockQuery : Codec BlockQuery :=
  along (fun value => (value.hash, value.sender)) (fun (hash, sender) => ⟨hash, sender⟩)
    (pair block NodeAddress.codec)

/-- A block delivery: the sender, then the block. -/
def blockDelivery : Codec BlockDelivery :=
  along (fun value => (value.sender, value.block)) (fun (sender, block) => ⟨sender, block⟩)
    (pair NodeAddress.codec block)

/-- A range of blocks: the sender, then the block it starts from. -/
def blockRange : Codec BlockRange :=
  along (fun value => (value.sender, value.start)) (fun (sender, start) => ⟨sender, start⟩)
    (pair NodeAddress.codec block)

/-- An announcement: the sender, the kind, then the ids. -/
def announcement : Codec Announcement :=
  along (fun value => (value.sender, value.kind, value.items))
    (fun (sender, kind, items) => ⟨sender, kind, items⟩)
    (pair NodeAddress.codec (pair ItemKind.codec (list octets)))

/-- An item query: the sender, the kind, then the id. -/
def itemQuery : Codec ItemQuery :=
  along (fun value => (value.sender, value.kind, value.id))
    (fun (sender, kind, id) => ⟨sender, kind, id⟩)
    (pair NodeAddress.codec (pair ItemKind.codec block))

/-- A transaction delivery: the sender, then the transaction. -/
def transactionDelivery : Codec TransactionDelivery :=
  along (fun value => (value.sender, value.transaction))
    (fun (sender, transaction) => ⟨sender, transaction⟩)
    (pair NodeAddress.codec block)

/-- A version notice: the version, the height, then the sender. -/
def versionNotice : Codec VersionNotice :=
  along (fun value => (value.version, value.height, value.sender))
    (fun (version, height, sender) => ⟨version, height, sender⟩)
    (pair signed64 (pair signed64 NodeAddress.codec))

/-- A transaction query: the id, then the sender. -/
def transactionQuery : Codec TransactionQuery :=
  along (fun value => (value.id, value.sender)) (fun (id, sender) => ⟨id, sender⟩)
    (pair block NodeAddress.codec)

/-- An update query: the time, the height, the topmost blocks, then the sender. -/
def updateQuery : Codec UpdateQuery :=
  along (fun value => (value.since, value.height, value.topBlocks, value.sender))
    (fun (since, height, topBlocks, sender) => ⟨since, height, topBlocks, sender⟩)
    (pair signed64 (pair signed64 (pair (list octets) NodeAddress.codec)))

/-- A wallet query is the address of the wallet. -/
def walletQuery : Codec WalletQuery :=
  along WalletQuery.wallet WalletQuery.mk text

/-- A query for unspent outputs: the wallet, then the last block it knows. -/
def unspentQuery : Codec UnspentQuery :=
  along (fun value => (value.wallet, value.lastBlock))
    (fun (wallet, lastBlock) => ⟨wallet, lastBlock⟩)
    (pair text block)

/-- A signed transaction: the wallet, the transaction, then the signature. -/
def signedTransaction : Codec SignedTransaction :=
  along (fun value => (value.wallet, value.transaction, value.signature))
    (fun (wallet, transaction, signature) => ⟨wallet, transaction, signature⟩)
    (pair text (pair block block))

/-- A transfer order: the public key, the recipient, then the amount. -/
def transferOrder : Codec TransferOrder :=
  along (fun value => (value.publicKey, value.recipient, value.amount))
    (fun (publicKey, recipient, amount) => ⟨publicKey, recipient, amount⟩)
    (pair block (pair text double))

/-- A statement order: the public key, then the statement. -/
def statementOrder : Codec StatementOrder :=
  along (fun value => (value.publicKey, value.sql)) (fun (publicKey, sql) => ⟨publicKey, sql⟩)
    (pair block text)

end Codec

end SqlLedger
