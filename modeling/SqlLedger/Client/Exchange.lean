/-
One exchange with a peer.

A call opens a connection of its own, writes one request and, if an answer is due, reads until the
peer closes. What the peer does is data here (`Peer`), so a call is a function: from the target,
the request and the peer to what the peer got and how the call ends. No octet leaves before the
target's address has been checked.
-/

import SqlLedger.Envelope.Response
import SqlLedger.NodeAddress

namespace SqlLedger

/-- What a peer does once it has read the request. -/
inductive Reaction
  /-- It breaks the connection, which the system complains of in these words. -/
  | breaks (complaint : String)
  /-- It writes nothing before the read deadline. -/
  | staysSilent
  /-- It writes these octets and closes. -/
  | answers (octets : Bytes)
  deriving DecidableEq, Repr

/-- A peer that resets the connection instead of answering. -/
def Reaction.resets : Reaction :=
  .breaks "Connection reset by peer (os error 104)"

/-- What keeps a request from being written to its end. -/
inductive Hindrance
  /-- The peer does not read on before the write deadline. -/
  | stall
  /-- The connection breaks, which the system complains of in these words. -/
  | breakage (complaint : String)
  deriving DecidableEq, Repr

/-- The error of a request to a target that was not written to its end. -/
def Hindrance.toNetworkError (target : NodeAddress) : Hindrance → NetworkError
  | stall => .cannotSend s!"write to {target.display} timed out"
  | breakage complaint => .cannotSend complaint

/-- What the far end does with a connection. -/
inductive Peer
  /-- It does not take the connection. -/
  | refuses
  /-- It takes the connection and reads this many octets of the request at most, because the rest
  cannot be written. -/
  | hinders (taken : Nat) (hindrance : Hindrance)
  /-- It takes the connection and reads the request. -/
  | reads (reaction : Reaction)
  deriving DecidableEq, Repr

/-- A peer that reads nothing before the write deadline. -/
def Peer.stalls : Peer :=
  .hinders 0 .stall

/-- How a call ends: the octets that the peer read, if a connection came about, and the result. -/
structure Exchange (α : Type) where
  sent : Option Bytes
  result : Except NetworkError α

namespace Exchange

/-- A call that ends before a connection comes about. -/
def unsent {α : Type} (error : NetworkError) : Exchange α :=
  ⟨none, .error error⟩

/-- Goes on with the result of a call. -/
def andThen {α β : Type} (exchange : Exchange α) (use : α → Except NetworkError β) :
    Exchange β where
  sent := exchange.sent
  result := exchange.result.bind use

/-- Connects to a target and writes a request. What comes after the writing is up to `afterwards`,
which is given the peer's reaction. -/
def write {α : Type} (target : NodeAddress) (request : Bytes) (peer : Peer)
    (afterwards : Reaction → Except NetworkError α) : Exchange α :=
  match target.validate with
  | .error error => unsent error
  | .ok () =>
    match target.socketPort? with
    | none => unsent (.addressInvalid s!"port {target.port.toNat}")
    | some _ =>
      match peer with
      | .refuses => unsent (.cannotConnect target.display)
      | .hinders taken hindrance =>
        ⟨some (request.take taken), .error (hindrance.toNetworkError target)⟩
      | .reads reaction => ⟨some request, afterwards reaction⟩

/-- Writes a request and does not wait for an answer. -/
def post (target : NodeAddress) (request : Bytes) (peer : Peer) : Exchange Unit :=
  write target request peer fun _ => .ok ()

/-- Reads until the peer closes, and takes the body of a success. -/
def readBody (target : NodeAddress) : Reaction → Except NetworkError Bytes
  | .answers octets => (Response.decode octets).bind Response.successBody
  | .staysSilent => .error (.responseTimeout target.display)
  | .breaks complaint => .error (.cannotSend complaint)

/-- Writes a request and waits for the body of a success. -/
def ask (target : NodeAddress) (request : Bytes) (peer : Peer) : Exchange Bytes :=
  write target request peer (readBody target)

/-- Writes a request and waits for a value. -/
def askFor {α : Type} (codec : Codec α) (target : NodeAddress) (request : Bytes) (peer : Peer) :
    Exchange α :=
  (ask target request peer).andThen fun body =>
    (codec.decode body).mapError fun fault => .cannotParseResponse fault.message

/-- Writes a request and waits for a success, whatever its body. -/
def confirm (target : NodeAddress) (request : Bytes) (peer : Peer) : Exchange Unit :=
  (ask target request peer).andThen fun _ => .ok ()

end Exchange

end SqlLedger
