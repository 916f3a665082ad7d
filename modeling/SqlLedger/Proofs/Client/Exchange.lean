/-
Calls that reach a peer which takes the request.

A target that passes its check has a port that sockets can take, so the only refusal in front of
the connection is the check itself. Behind it, an exchange with a peer that reads the request has
sent that request and ends as the reading of the answer says, and one with a peer that keeps the
request from being written has sent the beginning of it. Every call of a client is one of
three such exchanges with one framed request, and what the call makes of the result does not
touch what was sent. The framing cannot fail, because the name of every command fits its field.
-/

import SqlLedger.Client.Basic
import SqlLedger.Proofs.Envelope.Name

namespace SqlLedger

/-! ### Valid targets -/

/-- A valid address has a port in the width that sockets take. -/
theorem NodeAddress.exists_socketPort? {address : NodeAddress}
    (valid : address.validate = .ok ()) : ∃ port, address.socketPort? = some port := by
  unfold validate check at valid
  split at valid
  · cases valid
  · rename_i range
    simp only [greatestPort, not_or, Nat.not_lt] at range
    refine ⟨address.port.toUInt16, if_pos ?_⟩
    simp only [UInt16.size]
    omega

namespace Exchange

/-- At a valid target, a peer that reads gets the request, and the answer decides the rest. -/
theorem write_reads {α : Type} {target : NodeAddress} (valid : target.validate = .ok ())
    (request : Bytes) (reaction : Reaction) (afterwards : Reaction → Except NetworkError α) :
    write target request (.reads reaction) afterwards =
      ⟨some request, afterwards reaction⟩ := by
  obtain ⟨port, found⟩ := NodeAddress.exists_socketPort? valid
  simp only [write, valid, found]

/-- What is sent does not depend on whether an answer is waited for. -/
theorem sent_ask (target : NodeAddress) (request : Bytes) (peer : Peer) :
    (ask target request peer).sent = (post target request peer).sent := by
  unfold ask post write
  split
  · rfl
  · split
    · rfl
    · cases peer <;> rfl

/-- What a peer gets is the beginning of the request, and all of it if the peer reads it. -/
theorem isPrefix_of_sent_post {target : NodeAddress} {request octets : Bytes} {peer : Peer}
    (sent : octets ∈ (post target request peer).sent) :
    octets <+: request ∧ ∀ reaction, peer = .reads reaction → octets = request := by
  unfold post write at sent
  split at sent
  · cases sent
  · split at sent
    · cases sent
    · cases peer with
      | refuses => cases sent
      | hinders taken hindrance =>
        obtain rfl := Option.some.inj sent
        exact ⟨List.take_prefix taken request, nofun⟩
      | reads reaction =>
        obtain rfl := Option.some.inj sent
        exact ⟨List.prefix_refl request, fun _ _ => rfl⟩

end Exchange

/-! ### Framing -/

namespace Client

/-- The extra segment of a command: the token where the command requires it. -/
def extraFor (settings : Settings) (command : Command) : Bytes :=
  if command.requiresAuth then settings.tokenBytes else []

/-- Framing never fails: the frame holds a name that the catalog knows as the command, the octets
of the payload and the extra segment. -/
theorem exists_request [Build] (client : Client) (operation : Operation) :
    ∃ field, client.request operation =
        .ok (Envelope.encode ⟨field, (operation.payload client.home).encode,
          extraFor client.settings operation.command⟩) ∧
      Command.ofName field.name = .ok operation.command := by
  obtain ⟨field, created, known⟩ := Envelope.exists_create_command operation.command
    (operation.payload client.home).encode (extraFor client.settings operation.command)
  refine ⟨field, ?_, known⟩
  unfold request frame frameAuthorized extraFor at *
  rw [Operation.command_payload]
  split <;> rename_i required <;>
    simp only [required, if_true, Bool.false_eq_true, if_false] at created <;>
    rw [frameWith, Operation.command_payload, created]

/-! ### Calls -/

variable {client : Client} {operation : Operation} {requested : NodeAddress} {request : Bytes}

/-- What a call sends, posting its request sends. -/
theorem sent_perform [Build] (framed : client.request operation = .ok request)
    (requested : NodeAddress) (peer : Peer) :
    (client.perform operation requested peer).sent =
      (Exchange.post (client.target operation requested) request peer).sent := by
  rw [← Exchange.sent_ask]
  simp only [perform, framed]
  split
  · exact (Exchange.sent_ask _ _ _).symm
  · rfl
  · rfl

/-- A call to a valid target sends its request, whatever the peer answers. -/
theorem sent_perform_reads [Build] (framed : client.request operation = .ok request)
    (valid : (client.target operation requested).validate = .ok ()) (reaction : Reaction) :
    (client.perform operation requested (.reads reaction)).sent = some request := by
  rw [sent_perform framed, Exchange.post, Exchange.write_reads valid]

/-- What a peer gets of a call is the beginning of its request, and all of it if the peer reads
it. -/
theorem isPrefix_of_sent_perform [Build] {peer : Peer} {octets : Bytes}
    (framed : client.request operation = .ok request)
    (sent : octets ∈ (client.perform operation requested peer).sent) :
    octets <+: request ∧ ∀ reaction, peer = .reads reaction → octets = request := by
  rw [sent_perform framed] at sent
  exact Exchange.isPrefix_of_sent_post sent

end Client

end SqlLedger
