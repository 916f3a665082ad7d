/-
What the command line prints of answers.

Lists are printed one entry to a line; the state of a node and a balance are printed as JSON.
Texts that a node chose are printed as they are, except inside JSON.
-/

import SqlLedger.Json.Printer
import SqlLedger.Message.Reply

namespace SqlLedger.CommandLine

/-- A text as a line. -/
def line (text : String) : String := text ++ "\n"

/-- The state of a node as JSON. -/
def stateJson (state : NodeState) : Json :=
  .object [("host", .text state.host), ("blocks_number", .integer state.blocks.toInt),
    ("expecting_blocks_height", .integer state.expectedHeight.toInt),
    ("transactions_cached", .integer state.cachedTransactions.toInt),
    ("unspent_outputs", .integer state.unspentOutputs.toInt)]

/-- The report on the state of a node. -/
def reportState (state : NodeState) : String :=
  line (stateJson state).print

/-- A balance as JSON. -/
def balanceJson (balance : Balance) : Json :=
  .object [("total", .real balance.total), ("approved", .real balance.approved),
    ("pending", .real balance.pending)]

/-- The report on a balance. -/
def reportBalance (balance : Balance) : String :=
  line (balanceJson balance).print

/-- The report on known nodes. -/
def reportNodes (nodes : List NodeAddress) : String :=
  String.join (nodes.map fun node => line node.display)

/-- How the direction of a transaction is shown, in a column of four. -/
def direction (outgoing : Bool) : String :=
  if outgoing then " out" else "  in"

/-- One transaction of a wallet. -/
def historyLine (entry : HistoryEntry) : String :=
  s!"{Bytes.toHex entry.transaction} {direction entry.outgoing} " ++
    s!"{DecimalLayout.plain.text entry.amount} {entry.payer} -> {entry.payee}"

/-- The report on the transactions of a wallet. -/
def reportHistory (entries : List HistoryEntry) : String :=
  String.join (entries.map fun entry => line (historyLine entry))

/-- One unspent output. -/
def unspentLine (output : UnspentOutput) : String :=
  s!"{Bytes.toHex output.transaction}:{output.index.toInt} " ++
    DecimalLayout.plain.text output.amount ++ if output.isCoinbase then " (coinbase)" else ""

/-- The report on the unspent outputs of a wallet: a line for each, and one for the last block. -/
def reportUnspent (unspent : UnspentOutputs) : String :=
  String.join (unspent.outputs.map fun output => line (unspentLine output)) ++
    line s!"chain tip: {Bytes.toHex unspent.lastBlock}"

end SqlLedger.CommandLine
