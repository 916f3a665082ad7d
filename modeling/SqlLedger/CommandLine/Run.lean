/-
Runs of the command line.

A run loads the settings, turns the subcommand into one call of the client, and prints the whole
report on the answer or nothing. What can go wrong goes wrong in this order: the settings, the
arguments that describe a node, the call. A run that goes wrong prints one line of complaint and
ends with a status that is not zero.
-/

import SqlLedger.Client.Basic
import SqlLedger.CommandLine.Arguments
import SqlLedger.CommandLine.Report
import SqlLedger.Configuration.Load

namespace SqlLedger.CommandLine

/-! ### What goes wrong -/

/-- Why a run fails. -/
inductive Failure
  /-- The settings cannot be loaded. -/
  | settings (fault : Configuration.LoadFault)
  /-- The port of a node is no number of 32 bits. -/
  | port (fault : Text.NumeralFault)
  /-- The description of a node is refused, or the call failed. -/
  | network (error : NetworkError)
  deriving DecidableEq, Repr

/-- The name of a fault of a numeral. -/
def numeralFaultName : Text.NumeralFault → String
  | .empty => "Empty"
  | .invalidDigit => "InvalidDigit"
  | .aboveRange => "PosOverflow"
  | .belowRange => "NegOverflow"

/-- The failure as a diagnostic shows it. -/
def Failure.diagnostic : Failure → String
  | settings fault => fault.message
  | port fault => s!"ParseIntError \x7b kind: {numeralFaultName fault} \x7d"
  | network error => error.diagnostic

/-! ### From subcommands to calls -/

/-- A call together with what is printed of its answer. -/
structure Plan where
  operation : Operation
  report : operation.Answer → String

/-- The node that a host and a port describe. -/
def describedNode (host port : String) : Except Failure NodeAddress := do
  let number ← (Text.readUnsigned (UInt32.size - 1) port).mapError .port
  let node : NodeAddress := ⟨host, UInt32.ofNat number⟩
  node.validate.mapError .network
  return node

/-- The call that a subcommand stands for, made by a client whose own node is `home`. -/
def Subcommand.plan (home : NodeAddress) : Subcommand → Except Failure Plan
  | state => .ok ⟨.nodeState, reportState⟩
  | nodes => .ok ⟨.nodes, reportNodes⟩
  | addNode host port =>
    (describedNode host port).map fun node =>
      ⟨.addNode node, fun _ => line s!"added {node.display}"⟩
  | removeNode host port =>
    (describedNode host port).map fun node =>
      ⟨.removeNode node, fun _ => line s!"removed {node.display}"⟩
  | balance wallet => .ok ⟨.balance wallet, reportBalance⟩
  | history wallet => .ok ⟨.history wallet, reportHistory⟩
  | unspent wallet => .ok ⟨.unspent wallet [], reportUnspent⟩
  | stop => .ok ⟨.sendVoid, fun _ => line s!"void sent to {home.display}"⟩

/-! ### Runs -/

/-- How a run ends. -/
structure Outcome where
  /-- The exit status. -/
  status : Nat
  /-- What is printed on standard output. -/
  output : String
  /-- What is printed on standard error. -/
  complaint : String
  /-- The octets that the peer read, if a connection came about. -/
  sent : Option Bytes
  deriving DecidableEq, Repr

/-- The end of a run that went well. -/
def Outcome.success (output : String) (sent : Option Bytes) : Outcome :=
  ⟨0, output, "", sent⟩

/-- The end of a run that went wrong. -/
def Outcome.failure (failure : Failure) (sent : Option Bytes) : Outcome :=
  ⟨1, "", line s!"Error: {failure.diagnostic}", sent⟩

/-- What is printed when there is no subcommand. -/
def usage : String :=
  line "USAGE:\n    sqlchaincli [OPTIONS] [SUBCOMMAND]"

/-- A run up to the point where it needs the network: a client with its plan, if there is a
subcommand. -/
def prepare (invocation : Invocation) (files : List Configuration.File)
    (environment : Configuration.Environment) : Except Failure (Option (Client × Plan)) := do
  let settings ← (Configuration.load invocation.config files environment).mapError .settings
  let client : Client := ⟨settings⟩
  match invocation.subcommand with
  | none => return none
  | some subcommand => return some (client, ← subcommand.plan client.home)

/-- Performs a plan against the peer that stands at the client's own node. -/
def perform [Build] (client : Client) (plan : Plan) (peer : Peer) : Outcome :=
  let exchange := client.perform plan.operation client.home peer
  match exchange.result with
  | .ok answer => .success (plan.report answer) exchange.sent
  | .error error => .failure (.network error) exchange.sent

/-- A run whose arguments have been read. -/
def runInvocation [Build] (invocation : Invocation) (files : List Configuration.File)
    (environment : Configuration.Environment) (peer : Peer) : Outcome :=
  match prepare invocation files environment with
  | .error failure => .failure failure none
  | .ok none => .success usage none
  | .ok (some (client, plan)) => perform client plan peer

/-- A run of the command line. -/
def run [Build] (arguments : List String) (files : List Configuration.File)
    (environment : Configuration.Environment) (peer : Peer) : Except Refusal Outcome :=
  (readArguments arguments).map fun invocation => runInvocation invocation files environment peer

end SqlLedger.CommandLine
