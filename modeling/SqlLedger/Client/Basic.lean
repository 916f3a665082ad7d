/-
The client of a node.

A client frames payloads and performs operations. The authorization token goes into the extra
segment of the commands that the catalog marks, and of no others unless the caller insists.
-/

import SqlLedger.Client.Operation

namespace SqlLedger

/-- A client, made of its settings. -/
structure Client where
  settings : Settings

namespace Client

/-- The address of the client's own node. -/
def home (client : Client) : NodeAddress :=
  client.settings.home

/-! ### Framing -/

/-- Frames a payload with a given extra segment. -/
def frameWith (payload : Payload) (extra : Bytes) : Except NetworkError Bytes :=
  match Envelope.create payload.command.name payload.encode extra with
  | .ok envelope => .ok envelope.encode
  | .error fault => .error fault.toNetworkError

/-- Frames a payload with the token, whatever the command. -/
def frameAuthorized (client : Client) (payload : Payload) : Except NetworkError Bytes :=
  frameWith payload client.settings.tokenBytes

/-- Frames a payload, with the token if the command requires it. -/
def frame (client : Client) (payload : Payload) : Except NetworkError Bytes :=
  if payload.command.requiresAuth then client.frameAuthorized payload
  else frameWith payload []

/-! ### Operations -/

/-- The octets that a call writes. -/
def request [Build] (client : Client) (operation : Operation) : Except NetworkError Bytes :=
  client.frame (operation.payload client.home)

/-- Where a call goes: management to the client's own node, all else where the caller says. -/
def target (client : Client) (operation : Operation) (requested : NodeAddress) : NodeAddress :=
  if operation.isManagement then client.home else requested

/-- Performs a call against a peer that stands at its target. -/
def perform [Build] (client : Client) (operation : Operation) (requested : NodeAddress)
    (peer : Peer) : Exchange operation.Answer :=
  match client.request operation with
  | .error error => .unsent error
  | .ok request =>
    let target := client.target operation requested
    match operation.delivery with
    | .posted done => (Exchange.post target request peer).andThen fun () => .ok done
    | .confirmed done => (Exchange.confirm target request peer).andThen fun () => .ok done
    | .answered view =>
      (Exchange.askFor operation.command.replyCodec target request peer).andThen fun reply =>
        .ok (view reply)

end Client

end SqlLedger
