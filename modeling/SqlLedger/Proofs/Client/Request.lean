/-
A call says on the wire exactly what its caller asked.

What a payload says is stated here from the side of the node that receives it, and not through
the table by which a client makes payloads. `Payload.asks` is the call that the command and the
fields amount to, `Payload.sender?` the node that the payload names as its sender, and
`Payload.version?` the protocol version that it states. The payload of a call asks for that call,
names the client's own node wherever its shape names a sender, and states the version of this
library wherever it states one; and since the three leave nothing of a payload out
(`Payload.payload_asks`), no other payload does so.

From there the statement is carried through the layers: the octets of the payload read back as the
payload, the frame around them is read back with nothing left over, its name is the one that the
catalog knows as the call's command, and its extra segment is the token or nothing, as the command
requires. Lengths matter only where a word counts them, and the two words of the header are the
narrowest.
-/

import SqlLedger.Proofs.Client.Exchange
import SqlLedger.Proofs.Envelope.Framing
import SqlLedger.Proofs.Message.Payload

namespace SqlLedger

/-! ### What a payload says to the node that receives it -/

namespace Payload

/-- The call that a payload asks for. -/
def asks : Payload → Operation
  | ⟨.void, _⟩ => .sendVoid
  | ⟨.addresses, fields⟩ => .sendAddresses fields.addresses
  | ⟨.fetchBlock, fields⟩ => .fetchBlock fields.hash
  | ⟨.deliverBlock, fields⟩ => .sendBlock fields.block
  | ⟨.announce, fields⟩ => .announce fields.kind fields.items
  | ⟨.blocksBelow, fields⟩ => .blocksBelow fields.start
  | ⟨.blocksAbove, fields⟩ => .blocksAbove fields.start
  | ⟨.firstBlocks, _⟩ => .firstBlocks
  | ⟨.consensusData, _⟩ => .consensusData
  | ⟨.fetchItem, fields⟩ => .fetchItem fields.kind fields.id
  | ⟨.fetchTransaction, fields⟩ => .fetchTransaction fields.id
  | ⟨.checkBlock, fields⟩ => .checkBlock fields.hash
  | ⟨.deliverTransaction, fields⟩ => .sendTransaction fields.transaction
  | ⟨.version, fields⟩ => .sendVersion fields.height
  | ⟨.updates, fields⟩ => .updates fields.since fields.height fields.topBlocks
  | ⟨.history, fields⟩ => .history fields.wallet
  | ⟨.submitTransaction, fields⟩ =>
    .submitTransaction fields.wallet fields.transaction fields.signature
  | ⟨.prepareTransfer, fields⟩ => .prepareTransfer fields.publicKey fields.recipient fields.amount
  | ⟨.prepareStatement, fields⟩ => .prepareStatement fields.publicKey fields.sql
  | ⟨.unspent, fields⟩ => .unspent fields.wallet fields.lastBlock
  | ⟨.balance, fields⟩ => .balance fields.wallet
  | ⟨.nodes, _⟩ => .nodes
  | ⟨.addNode, node⟩ => .addNode node
  | ⟨.removeNode, node⟩ => .removeNode node
  | ⟨.nodeState, _⟩ => .nodeState

/-- The node that a payload names as its sender, if its shape names one. -/
def sender? : Payload → Option NodeAddress
  | ⟨.addresses, fields⟩ => some fields.sender
  | ⟨.fetchBlock, fields⟩ | ⟨.checkBlock, fields⟩ => some fields.sender
  | ⟨.deliverBlock, fields⟩ => some fields.sender
  | ⟨.blocksBelow, fields⟩ | ⟨.blocksAbove, fields⟩ => some fields.sender
  | ⟨.announce, fields⟩ => some fields.sender
  | ⟨.fetchItem, fields⟩ => some fields.sender
  | ⟨.deliverTransaction, fields⟩ => some fields.sender
  | ⟨.version, fields⟩ => some fields.sender
  | ⟨.fetchTransaction, fields⟩ => some fields.sender
  | ⟨.updates, fields⟩ => some fields.sender
  | _ => none

/-- The protocol version that a payload states, if its shape states one. -/
def version? : Payload → Option Int64
  | ⟨.version, fields⟩ => some fields.version
  | _ => none

/-- What a payload asks, whom it names as its sender and which version it states is all that it
says. If it names nobody but the node of a client, and no version but that of this library, it is
what the client says in the call that it asks for. -/
theorem payload_asks [Build] {home : NodeAddress} {said : Payload}
    (names : ∀ sender ∈ said.sender?, sender = home)
    (states : ∀ version ∈ said.version?, version = VersionNotice.current) :
    said.asks.payload home = said := by
  obtain ⟨command, fields⟩ := said
  cases command with
  | void | firstBlocks | consensusData | history | submitTransaction | prepareTransfer
  | prepareStatement | unspent | balance | nodes | addNode | removeNode | nodeState => rfl
  | addresses | fetchBlock | deliverBlock | announce | blocksBelow | blocksAbove | fetchItem
  | fetchTransaction | checkBlock | deliverTransaction | updates =>
    obtain rfl : fields.sender = home := names _ rfl
    rfl
  | version =>
    obtain rfl : fields.sender = home := names _ rfl
    have stated : fields.version = VersionNotice.current := states _ rfl
    rw [asks, Operation.payload, ← stated]

end Payload

/-! ### What the payload of a call says -/

namespace Operation

/-- The payload of a call asks for that call. -/
theorem asks_payload [Build] (home : NodeAddress) (operation : Operation) :
    (operation.payload home).asks = operation := by
  cases operation <;> rfl

/-- The payload of a call names nobody but the client's own node as its sender. -/
theorem sender?_payload [Build] (home : NodeAddress) (operation : Operation) :
    ∀ sender ∈ (operation.payload home).sender?, sender = home := by
  intro sender named
  cases operation <;> simp only [payload, Payload.sender?, Option.mem_def, Option.some.injEq,
    reduceCtorEq] at named <;> exact named.symm

/-- The payload of a call states no version but that of this library. -/
theorem version?_payload [Build] (home : NodeAddress) (operation : Operation) :
    ∀ version ∈ (operation.payload home).version?, version = VersionNotice.current := by
  intro version stated
  cases operation <;> simp only [payload, Payload.version?, Option.mem_def, Option.some.injEq,
    reduceCtorEq] at stated
  exact stated.symm

end Operation

/-! ### What a call says on the wire -/

namespace Client

/-- Every call says on the wire exactly what its caller asked, provided that the lengths of the
payload and of the token fit their words. The request is always there, and a valid target that
takes it gets it whatever it answers. It is one frame with nothing left over, named as the command
of the call; its payload is read as a payload that asks for this very call, with the client's own
node as the only sender and this library's version as the only version, and there is only one
payload of which this is true; and its extra segment is the token if the command requires it, and
empty otherwise. -/
theorem perform_says_what_was_asked [Build] (settings : Settings) (operation : Operation)
    (requested : NodeAddress)
    (payloadFits : (operation.payload settings.home).encode.length < UInt32.size)
    (tokenFits : settings.tokenBytes.length < UInt32.size) :
    ∃ request envelope said,
      (Client.mk settings).request operation = .ok request ∧
      (((Client.mk settings).target operation requested).validate = .ok () →
        ∀ reaction, ((Client.mk settings).perform operation requested (.reads reaction)).sent =
          some request) ∧
      Envelope.decode request = .ok envelope ∧
      request.length =
        Envelope.headerSize + envelope.payload.length + envelope.extra.length ∧
      envelope.command = .ok operation.command ∧
      Payload.decode operation.command envelope.payload = .ok said ∧
      said.asks = operation ∧
      (∀ sender ∈ said.sender?, sender = settings.home) ∧
      (∀ version ∈ said.version?, version = VersionNotice.current) ∧
      said = operation.payload settings.home ∧
      (∀ other : Payload, other.asks = operation →
        (∀ sender ∈ other.sender?, sender = settings.home) →
        (∀ version ∈ other.version?, version = VersionNotice.current) → other = said) ∧
      envelope.extra = if operation.command.requiresAuth then settings.tokenBytes else [] := by
  obtain ⟨field, framed, known⟩ := exists_request ⟨settings⟩ operation
  have extraFits : (extraFor settings operation.command).length < UInt32.size := by
    unfold extraFor
    split
    · exact tokenFits
    · decide
  have counted : (operation.payload settings.home).encode.length < Bytes.wordCount 8 :=
    Nat.lt_trans payloadFits (by decide)
  have readBack := Payload.decode_encode_append (Payload.fits_of_length_encode_lt counted) []
  rw [List.append_nil, Operation.command_payload] at readBack
  refine ⟨_, ⟨field, (operation.payload settings.home).encode,
    extraFor settings operation.command⟩, operation.payload settings.home, framed,
    fun valid reaction => sent_perform_reads framed valid reaction, ?_, ?_, known,
    readBack, Operation.asks_payload settings.home operation,
    Operation.sender?_payload settings.home operation,
    Operation.version?_payload settings.home operation, rfl, ?_, rfl⟩
  · exact Envelope.decode_eq_ok_iff_isPrefix.mpr
      ⟨⟨payloadFits, extraFits⟩, List.prefix_refl _⟩
  · rw [Envelope.length_encode, Nat.add_assoc]
    rfl
  · rintro other rfl names states
    exact (Payload.payload_asks names states).symm

/-- A client with a token asks its own node to add another, and the token goes along. -/
theorem addNode_says_what_was_asked :
    ∃ request envelope said,
      (Client.mk { token := some "open" }).request (.addNode ⟨"node", 9001⟩) = .ok request ∧
      ((Client.mk { token := some "open" }).perform (.addNode ⟨"node", 9001⟩) ⟨"", 0⟩
        (.reads .resets)).sent = some request ∧
      Envelope.decode request = .ok envelope ∧
      Payload.decode .addNode envelope.payload = .ok said ∧
      said.asks = .addNode ⟨"node", 9001⟩ ∧
      envelope.extra = [111, 112, 101, 110] := by
  obtain ⟨request, envelope, said, framed, sent, read, -, -, decoded, asked, -, -, -, -, extra⟩ :=
    perform_says_what_was_asked { token := some "open" } (.addNode ⟨"node", 9001⟩) ⟨"", 0⟩
      (by decide) (by decide)
  exact ⟨request, envelope, said, framed, sent rfl .resets, read, decoded, asked, extra⟩

end Client

end SqlLedger
