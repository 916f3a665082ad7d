/-
The command line as a program.

All decisions are made by `CommandLine.run`; this file brings it what it asks for. It reads the
files that may hold the settings and the variables that may give a field a value, and it finds out
what the peer does with the request by talking to it. One run opens one connection at most.
-/

import SqlLedger.CommandLine.Run
import Std.Async.DNS
import Std.Async.TCP
import Std.Async.Timer

namespace SqlLedger.Program

open Std.Async

/-! ### The surroundings of a run -/

/-- What a run says of a settings file that it cannot read. -/
def fileComplaint : String := "malformed settings"

/-- The settings files that are there, with their contents. -/
def presentFiles (requested : String) : IO (List Configuration.File) := do
  (Configuration.candidates requested).filterMapM fun (name : String) => do
    try
      return some ⟨name, ← IO.FS.readFile name, fileComplaint⟩
    catch _ => return none

/-- The variables of the environment. Which of them give a field a value is a matter of their names,
whose case does not count, and is found out by the run. -/
def presentVariables : IO Configuration.Environment := do
  return (← Std.Internal.UV.System.osEnviron).toList

/-! ### Talking to a peer -/

/-- Waits for an action up to a deadline. -/
def within {α : Type} (milliseconds : UInt64) (action : Async α) : Async (Option α) :=
  Async.race (do return some (← action)) do
    sleep (Std.Time.Millisecond.Offset.ofNat milliseconds.toNat)
    return none

/-- An action that gives what the system complains of when it fails. -/
def attempt {α : Type} (action : Async α) : Async (Except String α) := do
  try
    return .ok (← action)
  catch fault => return .error fault.toString

/-- The address of a socket. -/
def socketAddress (address : Std.Net.IPAddr) (port : UInt16) : Std.Net.SocketAddress :=
  match address with
  | .v4 address => .v4 ⟨address, port⟩
  | .v6 address => .v6 ⟨address, port⟩

/-- Connects to the first address of a host that takes the connection. -/
def connect (host : String) (port : UInt16) : Async (Option TCP.Socket.Client) := do
  let addresses := (← attempt (DNS.getAddrInfo host (toString port.toNat))).toOption.getD #[]
  for address in addresses do
    let socket ← TCP.Socket.Client.mk
    if (← attempt (socket.connect (socketAddress address port))).isOk then
      return some socket
  return none

/-- Reads until the peer closes. -/
partial def readToEnd (socket : TCP.Socket.Client) (soFar : ByteArray) : Async ByteArray := do
  match ← socket.recv? 65536 with
  | some received => readToEnd socket (soFar ++ received)
  | none => return soFar

/-- Reads the whole answer of a peer that has got the request. -/
def observeReaction (settings : Settings) (socket : TCP.Socket.Client) : Async Reaction := do
  match ← within settings.readTimeout (attempt (readToEnd socket .empty)) with
  | none => return .staysSilent
  | some (.error complaint) => return .breaks complaint
  | some (.ok answer) => return .answers answer.toList

/-- Finds out what the peer of a call does, by making the call. How much the peer got of a request
that was not written to its end is not known here. -/
def observe (client : Client) (plan : CommandLine.Plan) : Async Peer := do
  let settings := client.settings
  let target := client.target plan.operation client.home
  let waits := plan.operation.command.waitsResponse
  match target.validate, target.socketPort?, client.request plan.operation with
  | .ok (), some port, .ok request =>
    let deadline := if waits then settings.waitConnectTimeout else settings.connectTimeout
    match (← within deadline (connect target.host port)).join with
    | none => return .refuses
    | some socket =>
      match ← within settings.writeTimeout (attempt (socket.send ⟨request.toArray⟩)) with
      | none => return .stalls
      | some (.error complaint) => return .hinders 0 (.breakage complaint)
      | some (.ok ()) =>
        if waits then return .reads (← observeReaction settings socket)
        return .reads .staysSilent
  | _, _, _ => return .refuses

/-- Finds out what the peer of a run does, if the run comes as far as a call. -/
def observeRun (invocation : CommandLine.Invocation) (files : List Configuration.File)
    (environment : Configuration.Environment) : IO Peer := do
  match CommandLine.prepare invocation files environment with
  | .ok (some (client, plan)) => (observe client plan).block
  | _ => return .refuses

/-- Runs the command line and gives the exit status. -/
def run (arguments : List String) : IO UInt32 := do
  match CommandLine.readArguments arguments with
  | .error refusal =>
    IO.eprint (CommandLine.line s!"error: {refusal.message}" ++ CommandLine.usage)
    return 1
  | .ok invocation =>
    let files ← presentFiles invocation.config
    let environment ← presentVariables
    let peer ← observeRun invocation files environment
    let outcome := CommandLine.runInvocation invocation files environment peer
    IO.print outcome.output
    IO.eprint outcome.complaint
    return UInt32.ofNat outcome.status

end SqlLedger.Program

/-- The program: a run of the command line. -/
def main (arguments : List String) : IO UInt32 :=
  SqlLedger.Program.run arguments
