/-
The result of a call is decided by the octets of the answer.

`Operation.Carries` is the catalog's column of answers, call by call: the shape that the body of a
success has to open with, and what of it the caller gets. It is written down here once more, in
full, because the client spreads it over two tables, the layout that belongs to the command and
the view that belongs to the call; that the two together come to this column is one lemma
(`Operation.carries_iff`). A prepared transfer is the one call whose caller gets less than the
body carries, and a call that manages the list of nodes is content with any body.

A call that waits reads the status, then a value of the layout, then the view of the value. Each
stage composes with the one before it by the rule for stages of an answer, so what octets mean to
a call follows from lawful layouts alone, and with it the exact condition for every outcome.
-/

import SqlLedger.Proofs.Client.Exchange
import SqlLedger.Proofs.Envelope.Response
import SqlLedger.Proofs.Message.Payload

namespace SqlLedger

/-! ### What the body of a success carries -/

namespace Operation

/-- What the body of a success carries for the caller of an operation. -/
def Carries : (operation : Operation) → Bytes → operation.Answer → Prop
  | fetchBlock _, body, block => Codec.block.Opens body block
  | firstBlocks, body, first => Codec.firstBlocks.Opens body first
  | consensusData, body, rules => Codec.consensusData.Opens body rules
  | fetchTransaction _, body, transaction => Codec.block.Opens body transaction
  | checkBlock _, body, known => Codec.flag.Opens body known
  | updates .., body, news => Codec.updates.Opens body news
  | history _, body, entries => (Codec.list .historyEntry).Opens body entries
  | submitTransaction .., body, id => Codec.octets.Opens body id
  | prepareTransfer .., body, (transaction, dataToSign) =>
    ∃ finished, Codec.preparedTransaction.Opens body ⟨finished, transaction, dataToSign⟩
  | prepareStatement .., body, prepared => Codec.preparedTransaction.Opens body prepared
  | unspent .., body, outputs => Codec.unspentOutputs.Opens body outputs
  | balance _, body, amounts => Codec.balance.Opens body amounts
  | nodes, body, addresses => (Codec.list NodeAddress.codec).Opens body addresses
  | nodeState, body, state => Codec.nodeState.Opens body state
  | addNode _, _, _ | removeNode _, _, _ => True
  | sendVoid, _, _ | sendAddresses _, _, _ | sendBlock _, _, _ | announce .., _, _
  | blocksBelow _, _, _ | blocksAbove _, _, _ | fetchItem .., _, _ | sendTransaction _, _, _
  | sendVersion _, _, _ => False

end Operation

/-- What a caller gets of an answer that has been read. -/
def Delivery.view {ρ α : Type} : Delivery ρ α → ρ → α
  | .posted done, _ | .confirmed done, _ => done
  | .answered view, reply => view reply

/-- A caller gets exactly what the layout of the command and the view of the call make of a
body. -/
theorem Operation.carries_iff {operation : Operation}
    (waits : operation.command.waitsResponse = true) (body : Bytes)
    (answer : operation.Answer) :
    operation.Carries body answer ↔
      ∃ reply, operation.command.replyCodec.Opens body reply ∧
        operation.delivery.view reply = answer := by
  cases operation with
  | addNode | removeNode =>
    exact ⟨fun _ => ⟨(), ⟨trivial, List.nil_prefix⟩, rfl⟩, fun _ => trivial⟩
  | prepareTransfer =>
    constructor
    · rintro ⟨finished, opens⟩
      exact ⟨_, opens, rfl⟩
    · rintro ⟨prepared, opens, rfl⟩
      exact ⟨prepared.finished, opens⟩
  | sendVoid | sendAddresses | sendBlock | announce | blocksBelow | blocksAbove | fetchItem
  | sendTransaction | sendVersion => cases waits
  | _ =>
    constructor
    · intro opens
      exact ⟨answer, opens, rfl⟩
    · rintro ⟨reply, opens, rfl⟩
      exact opens

/-- A call whose command is answered takes the answer in some way. -/
theorem Operation.delivery_ne_posted {operation : Operation}
    (waits : operation.command.waitsResponse = true) (done : operation.Answer) :
    operation.delivery ≠ .posted done := by
  cases operation with
  | sendVoid | sendAddresses | sendBlock | announce | blocksBelow | blocksAbove | fetchItem
  | sendTransaction | sendVersion => cases waits
  | _ => exact nofun

/-- A call that is content with a confirmation is content with any body. -/
theorem Operation.carries_of_confirmed {operation : Operation} {done : operation.Answer}
    (confirmed : operation.delivery = .confirmed done) (body : Bytes)
    (answer : operation.Answer) : operation.Carries body answer := by
  cases operation with
  | addNode | removeNode => trivial
  | _ => cases confirmed

/-- A body carries one answer at most. -/
theorem Operation.Carries.unique {operation : Operation}
    (waits : operation.command.waitsResponse = true) {body : Bytes}
    {first second : operation.Answer} (carried : operation.Carries body first)
    (again : operation.Carries body second) : first = second := by
  obtain ⟨reply, opens, rfl⟩ := (carries_iff waits body first).mp carried
  obtain ⟨other, opensOther, rfl⟩ := (carries_iff waits body second).mp again
  rw [opens.unique opensOther]

/-! ### What octets mean to a call -/

namespace Exchange

variable {target : NodeAddress}

theorem result_ask_answers (valid : target.validate = .ok ()) (request octets : Bytes) :
    (ask target request (.reads (.answers octets))).result =
      (Response.decode octets).bind Response.successBody := by
  simp only [ask, write_reads valid, readBody]

/-- To a call that waits for a value, a success carries what its body opens with. -/
theorem meaning_askFor {α : Type} (codec : Codec α) [Codec.Lawful codec]
    (valid : target.validate = .ok ()) (request octets : Bytes) :
    Response.Meaning codec.Opens octets
      (askFor codec target request (.reads (.answers octets))).result := by
  simp only [askFor, andThen, result_ask_answers valid]
  refine (Response.meaning_successBody octets).bind ?_ ?_ ?_
  · rintro _ body value rfl accepted
    cases decoded : codec.decode body with
    | ok found =>
      rw [decoded] at accepted
      cases accepted
      exact (codec.decode_eq_ok_iff_opens body value).mp decoded
    | error fault =>
      rw [decoded] at accepted
      cases accepted
  · rintro _ body error rfl refused
    cases decoded : codec.decode body with
    | ok found =>
      rw [decoded] at refused
      cases refused
    | error fault =>
      rw [decoded] at refused
      cases refused
      refine ⟨⟨fault.message, rfl⟩, fun value opens => ?_⟩
      rw [(codec.decode_eq_ok_iff_opens body value).mpr opens] at decoded
      cases decoded
  · intro body value opens
    exact ⟨body, rfl⟩

/-- To a call that waits for a success alone, any body will do. -/
theorem meaning_confirm (valid : target.validate = .ok ()) (request octets : Bytes) :
    Response.Meaning (fun _ _ => True) octets
      (confirm target request (.reads (.answers octets))).result := by
  simp only [confirm, andThen, result_ask_answers valid]
  refine (Response.meaning_successBody octets).bind ?_ ?_ ?_
  · intros
    trivial
  · rintro body value error - refused
    cases refused
  · intro body answer _
    exact ⟨body, rfl⟩

end Exchange

namespace Client

/-- To a call whose command is answered, a success carries what the catalog says. -/
theorem meaning_perform [Build] (client : Client) {operation : Operation} {requested : NodeAddress}
    (waits : operation.command.waitsResponse = true)
    (valid : (client.target operation requested).validate = .ok ()) (octets : Bytes) :
    Response.Meaning operation.Carries octets
      (client.perform operation requested (.reads (.answers octets))).result := by
  obtain ⟨field, framed, -⟩ := exists_request client operation
  simp only [perform, framed]
  cases delivered : operation.delivery with
  | posted done => exact absurd delivered (Operation.delivery_ne_posted waits done)
  | confirmed done =>
    refine (Exchange.meaning_confirm valid _ octets).bind ?_ ?_ ?_
    · rintro body - answer - -
      exact Operation.carries_of_confirmed delivered body answer
    · rintro body - error - refused
      cases refused
    · intros
      exact ⟨(), trivial⟩
  | answered view =>
    refine (Exchange.meaning_askFor operation.command.replyCodec valid _ octets).bind ?_ ?_ ?_
    · rintro body reply answer opens accepted
      cases accepted
      refine (Operation.carries_iff waits body _).mpr ⟨reply, opens, ?_⟩
      rw [delivered, Delivery.view]
    · rintro body reply error - refused
      cases refused
    · intro body answer carried
      obtain ⟨reply, opens, -⟩ := (Operation.carries_iff waits body answer).mp carried
      exact ⟨reply, opens⟩

/-- What a node writes as a success is what its caller gets. -/
theorem result_perform_success [Build] (client : Client) (operation : Operation)
    (requested : NodeAddress) (waits : operation.command.waitsResponse = true)
    (valid : (client.target operation requested).validate = .ok ())
    {reply : operation.command.Reply} (fits : operation.command.replyCodec.Fits reply) :
    (client.perform operation requested (.reads (.answers
      (Response.success operation.command.replyCodec reply).encode))).result =
        .ok (operation.delivery.view reply) := by
  have carried := (Operation.carries_iff waits _ _).mpr ⟨reply, Codec.opens_write fits, rfl⟩
  exact (meaning_perform client waits valid _).eq_ok
    (fun _ _ _ first => first.unique waits) carried

/-- The octets of an answer decide the result of a call, whatever they are. This holds of every
call whose command is answered, once its target is valid and has taken the request; of a wait for
plain octets; and of a wait for a success alone, where any body will do. What nodes write as a
success gives the caller the value back. -/
theorem answers_decide_results [Build] :
    (∀ (settings : Settings) (operation : Operation) (requested : NodeAddress),
      operation.command.waitsResponse = true →
      ((Client.mk settings).target operation requested).validate = .ok () →
        Response.Decides operation.Carries (fun octets =>
          ((Client.mk settings).perform operation requested (.reads (.answers octets))).result) ∧
        ∀ reply, operation.command.replyCodec.Fits reply →
          ((Client.mk settings).perform operation requested (.reads (.answers
            (Response.success operation.command.replyCodec reply).encode))).result =
              .ok (operation.delivery.view reply)) ∧
    ∀ (target : NodeAddress) (request : Bytes), target.validate = .ok () →
      Response.Decides Codec.octets.Opens (fun octets =>
        (Exchange.askFor .octets target request (.reads (.answers octets))).result) ∧
      Response.Decides (fun _ (_ : Unit) => True) (fun octets =>
        (Exchange.confirm target request (.reads (.answers octets))).result) := by
  constructor
  · intro settings operation requested waits valid
    have decides := Response.Decides.of_meaning
      (fun _ _ _ carried again => carried.unique waits again)
      (fun octets => meaning_perform ⟨settings⟩ waits valid octets)
    refine ⟨decides, fun reply fits => ?_⟩
    have carried := (Operation.carries_iff waits _ _).mpr
      ⟨reply, Codec.opens_write fits, rfl⟩
    exact decides.success _ _ carried
  · intro target request valid
    constructor
    · exact Response.Decides.of_meaning (fun _ _ _ opens again => opens.unique again)
        (fun octets => Exchange.meaning_askFor Codec.octets valid request octets)
    · exact Response.Decides.of_meaning (fun _ _ _ _ _ => rfl)
        (fun octets => Exchange.meaning_confirm valid request octets)

/-- A node at the default address prepares a transfer, and its caller gets the transaction and
what is to be signed; an answer that ends in the middle of a length is none. -/
theorem prepareTransfer_answered :
    NodeAddress.validate ⟨"localhost", 8766⟩ = .ok () ∧
    Codec.preparedTransaction.Fits ⟨true, [4, 5], [6]⟩ ∧
    ((Client.mk {}).perform (.prepareTransfer [2, 7] "receiver" ⟨0⟩) ⟨"localhost", 8766⟩
      (.reads (.answers (Response.success Codec.preparedTransaction
        ⟨true, [4, 5], [6]⟩).encode))).result = .ok ([4, 5], [6]) ∧
    (Exchange.askFor .octets ⟨"localhost", 8766⟩ [] (.reads (.answers [1, 9, 0]))).result ≠
      .ok [] := by
  have valid : NodeAddress.validate ⟨"localhost", 8766⟩ = .ok () := rfl
  have fits : Codec.preparedTransaction.Fits ⟨true, [4, 5], [6]⟩ := by
    refine ⟨trivial, ?_, ?_⟩
    · show 2 < Bytes.wordCount 8
      decide
    · show 1 < Bytes.wordCount 8
      decide
  have performed := answers_decide_results.1 {}
    (.prepareTransfer [2, 7] "receiver" ⟨0⟩) ⟨"localhost", 8766⟩ rfl valid
  have waited := answers_decide_results.2 ⟨"localhost", 8766⟩ [] valid
  refine ⟨valid, fits, performed.2 ⟨true, [4, 5], [6]⟩ fits, fun read => ?_⟩
  obtain ⟨body, same, -, opens⟩ := (waited.1.ok_iff [1, 9, 0] []).mp read
  cases same
  revert opens
  decide

end Client

end SqlLedger
