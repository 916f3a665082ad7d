/-
A call reads an answer exactly if the catalog says that its command has one.

How a call takes its answer is a matter of the call, and whether a command is answered is a matter
of the catalog; the two tables are kept apart and agree (`Operation.awaits_delivery`). Given that, a
call has one of two shapes. A call that does not wait comes to posting its request, and posting is
the same for all reactions of a peer. A call that waits comes to asking for the body of a success
and going on with it (`Client.exists_perform_eq_ask`), and asking alone decides what no answer and
a silent peer come to, and that nothing but the status of a success leads to one. None of this
looks at a single call again.
-/

import SqlLedger.Proofs.Client.Exchange
import SqlLedger.Proofs.Envelope.Response
import SqlLedger.Proofs.Result

namespace SqlLedger

/-! ### Two tables -/

/-- Whether a way to take the answer of a call waits for one. -/
def Delivery.awaits {ρ α : Type} : Delivery ρ α → Bool
  | .posted _ => false
  | .confirmed _ | .answered _ => true

/-- A call waits for an answer exactly if the catalog says that its command has one. -/
theorem Operation.awaits_delivery (operation : Operation) :
    operation.delivery.awaits = operation.command.waitsResponse := by
  cases operation <;> rfl

/-- There is one answer only that a call without an answer can give its caller. -/
theorem Operation.answer_unique {operation : Operation}
    (posts : operation.command.waitsResponse = false) (first second : operation.Answer) :
    first = second := by
  cases operation with
  | sendVoid | sendAddresses | sendBlock | announce | blocksBelow | blocksAbove | fetchItem
  | sendTransaction | sendVersion => rfl
  | _ => exact nomatch posts

theorem Delivery.exists_eq_posted {ρ α : Type} {delivery : Delivery ρ α}
    (posts : delivery.awaits = false) : ∃ done, delivery = .posted done := by
  rcases delivery with done | done | view
  · exact ⟨done, rfl⟩
  · exact nomatch posts
  · exact nomatch posts

/-! ### Posting and asking -/

namespace Exchange

variable {α β γ : Type} {target : NodeAddress} {request : Bytes}

theorem andThen_andThen (exchange : Exchange α) (first : α → Except NetworkError β)
    (second : β → Except NetworkError γ) :
    (exchange.andThen first).andThen second =
      exchange.andThen fun value => (first value).bind second := by
  obtain ⟨sent, result⟩ := exchange
  rcases result with error | value <;> rfl

/-- What a peer does with a posted request does not matter, once it has read it. -/
theorem post_reads_eq_post_reads (target : NodeAddress) (request : Bytes)
    (first second : Reaction) :
    post target request (.reads first) = post target request (.reads second) :=
  rfl

theorem post_reads (valid : target.validate = .ok ()) (request : Bytes) (reaction : Reaction) :
    post target request (.reads reaction) = ⟨some request, .ok ()⟩ :=
  write_reads valid request reaction _

theorem ask_reads (valid : target.validate = .ok ()) (request : Bytes) (reaction : Reaction) :
    ask target request (.reads reaction) = ⟨some request, readBody target reaction⟩ :=
  write_reads valid request reaction _

/-- A request has the body of a success only from a peer that answers with the status of one. -/
theorem eq_answers_of_ask {peer : Peer} {body : Bytes}
    (succeeds : (ask target request peer).result = .ok body) :
    peer = .reads (.answers (1 :: body)) := by
  unfold ask write at succeeds
  split at succeeds
  · exact nomatch succeeds
  · split at succeeds
    · exact nomatch succeeds
    · rcases peer with _ | _ | ⟨_ | _ | octets⟩
      · exact nomatch succeeds
      · exact nomatch succeeds
      · exact nomatch succeeds
      · exact nomatch succeeds
      -- Only a peer that answered is left, and what its answer means decides.
      · have meaning := Response.meaning_successBody octets
        have read : (Response.decode octets).bind Response.successBody = .ok body := succeeds
        rw [read] at meaning
        obtain ⟨_, rfl, rfl⟩ := meaning.exists_body
        rfl

end Exchange

/-! ### The two shapes of a call -/

namespace Client

variable {client : Client} {operation : Operation} {request : Bytes}

/-- A call that does not wait comes to posting its request. -/
theorem exists_perform_eq_post [Build] (framed : client.request operation = .ok request)
    (posts : operation.command.waitsResponse = false) (requested : NodeAddress) :
    ∃ done, ∀ peer, client.perform operation requested peer =
      (Exchange.post (client.target operation requested) request peer).andThen
        fun () => .ok done := by
  rw [← Operation.awaits_delivery] at posts
  obtain ⟨done, posted⟩ := Delivery.exists_eq_posted posts
  refine ⟨done, fun peer => ?_⟩
  simp only [perform, framed, posted]

/-- A call that waits comes to asking with its request, and going on with the body of a success. -/
theorem exists_perform_eq_ask [Build] (framed : client.request operation = .ok request)
    (waits : operation.command.waitsResponse = true) (requested : NodeAddress) :
    ∃ use, ∀ peer, client.perform operation requested peer =
      (Exchange.ask (client.target operation requested) request peer).andThen use := by
  rw [← Operation.awaits_delivery] at waits
  simp only [perform, framed]
  rcases delivered : operation.delivery with done | done | view
  · rw [delivered] at waits
    exact absurd waits Bool.false_ne_true
  · exact ⟨_, fun peer => Exchange.andThen_andThen _ _ _⟩
  · exact ⟨_, fun peer => Exchange.andThen_andThen _ _ _⟩

/-- A call reads an answer exactly if the catalog says that its command has one. The way in which
it takes its answer agrees with the catalog's entry for the command of its payload. If the command
has no answer, what a peer does once it has read the request makes no difference, and at a valid
target the request is sent and the call succeeds with the only result that there is. If the command
has an answer, then at a valid target an empty answer is no answer and a silent peer is reported by
the target's address, and no peer makes the call succeed but one that answers with the status of a
success. -/
theorem reads_answer_as_catalogued [Build] (settings : Settings) (operation : Operation)
    (requested : NodeAddress) :
    operation.delivery.awaits = (operation.payload settings.home).command.waitsResponse ∧
    (operation.command.waitsResponse = false →
      (∀ first second, (Client.mk settings).perform operation requested (.reads first) =
        (Client.mk settings).perform operation requested (.reads second)) ∧
      (((Client.mk settings).target operation requested).validate = .ok () →
        ∃ request done, (Client.mk settings).request operation = .ok request ∧
          (∀ reaction, (Client.mk settings).perform operation requested (.reads reaction) =
            ⟨some request, .ok done⟩) ∧
          ∀ other : operation.Answer, other = done)) ∧
    (operation.command.waitsResponse = true →
      (((Client.mk settings).target operation requested).validate = .ok () →
        ((Client.mk settings).perform operation requested (.reads (.answers []))).result =
          .error .noResponse ∧
        ((Client.mk settings).perform operation requested (.reads .staysSilent)).result =
          .error (.responseTimeout ((Client.mk settings).target operation requested).display)) ∧
      ∀ peer answer, ((Client.mk settings).perform operation requested peer).result = .ok answer →
        ∃ body, peer = .reads (.answers (1 :: body))) := by
  obtain ⟨_, framed, -⟩ := exists_request ⟨settings⟩ operation
  refine ⟨?_, fun posts => ?_, fun waits => ?_⟩
  · rw [Operation.command_payload, Operation.awaits_delivery]
  · obtain ⟨done, performs⟩ := exists_perform_eq_post framed posts requested
    constructor
    · intro first second
      rw [performs, performs, Exchange.post_reads_eq_post_reads _ _ first second]
    · intro valid
      refine ⟨_, done, framed, fun reaction => ?_, fun other => Operation.answer_unique posts _ _⟩
      rw [performs, Exchange.post_reads valid]
      rfl
  · obtain ⟨use, performs⟩ := exists_perform_eq_ask framed waits requested
    constructor
    · intro valid
      rw [performs, performs, Exchange.ask_reads valid, Exchange.ask_reads valid]
      exact ⟨rfl, rfl⟩
    · intro peer answer succeeds
      rw [performs] at succeeds
      obtain ⟨body, asked, -⟩ := Result.bind_eq_ok_iff.mp succeeds
      exact ⟨body, Exchange.eq_answers_of_ask asked⟩

/-- A block that was read is sent, whether the peer then breaks the connection or answers with a
failure. A question for a balance that a peer leaves open is reported with the peer's address. -/
theorem reads_answer_as_catalogued_of_two :
    (Client.mk {}).perform (.sendBlock [7]) ⟨"node", 9001⟩ (.reads .resets) =
      (Client.mk {}).perform (.sendBlock [7]) ⟨"node", 9001⟩ (.reads (.answers [0])) ∧
    ((Client.mk {}).perform (.sendBlock [7]) ⟨"node", 9001⟩ (.reads .resets)).result = .ok () ∧
    ((Client.mk {}).perform (.balance "wallet") ⟨"node", 9001⟩ (.reads .staysSilent)).result =
      .error (.responseTimeout "node:9001") := by
  obtain ⟨-, posted, -⟩ := reads_answer_as_catalogued {} (.sendBlock [7]) ⟨"node", 9001⟩
  obtain ⟨-, -, awaited⟩ := reads_answer_as_catalogued {} (.balance "wallet") ⟨"node", 9001⟩
  obtain ⟨same, succeeds⟩ := posted rfl
  obtain ⟨request, done, -, performs, -⟩ := succeeds rfl
  obtain ⟨-, silent⟩ := (awaited rfl).1 rfl
  exact ⟨same _ _, congrArg Exchange.result (performs .resets), silent⟩

end Client

end SqlLedger
