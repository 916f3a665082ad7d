/-
Targets are checked before anything is connected.

Twenty-five calls of a client and three ways to send octets that are ready lead to a socket. All of
them go through one door, `Exchange.write`, which checks the target before it looks at the peer. So
what happens at the door is said once (`checksTarget_write`): a target with a flaw ends the call
with a complaint about that flaw, and a target without one is let in. What comes behind the door
goes on with the result of a peer that was let in, and never blames the address (`Blameless`), so
going on keeps the statement (`ChecksTarget.andThen`), and each way to the socket has it.

The port is narrowed to the width of sockets behind the door. The narrowing has a complaint of its
own, which no call can end with: a valid port fits, and an invalid one has been refused before.
-/

import SqlLedger.Proofs.Client.Exchange

namespace SqlLedger

/-! ### Flaws of addresses -/

namespace NodeAddress

/-- The port is one that a node may listen on. -/
def HasNodePort (address : NodeAddress) : Prop :=
  1025 ≤ address.port.toNat ∧ address.port.toNat ≤ 65535

/-- An address that a node may have. -/
def IsValid (address : NodeAddress) : Prop :=
  address.HasNodePort ∧ address.host ≠ ""

/-- What is wrong with an address, in words. A port out of range counts before an empty host. -/
inductive HasFlaw (address : NodeAddress) : String → Prop
  | port (outside : ¬ address.HasNodePort) :
    HasFlaw address s!"node address port has wrong value {address.port.toNat}"
  | host (inside : address.HasNodePort) (empty : address.host = "") :
    HasFlaw address "node address host is empty"

variable {address : NodeAddress}

theorem exists_hasFlaw_of_not_isValid (invalid : ¬ address.IsValid) :
    ∃ flaw, address.HasFlaw flaw := by
  by_cases inside : address.HasNodePort
  · by_cases empty : address.host = ""
    · exact ⟨_, .host inside empty⟩
    · exact absurd ⟨inside, empty⟩ invalid
  · exact ⟨_, .port inside⟩

theorem not_hasNodePort_iff :
    ¬ address.HasNodePort ↔
      address.port.toNat < leastPort ∨ greatestPort < address.port.toNat := by
  rw [HasNodePort, Decidable.not_and_iff_or_not, Nat.not_le, Nat.not_le]
  rfl

/-- The check finds the flaw of an address. -/
theorem validate_of_hasFlaw {flaw : String} (flawed : address.HasFlaw flaw) :
    address.validate = .error (.addressInvalid flaw) := by
  unfold validate check
  rcases flawed with outside | ⟨inside, empty⟩
  · rw [if_pos (not_hasNodePort_iff.mp outside)]
    rfl
  · rw [if_neg fun outside => not_hasNodePort_iff.mpr outside inside, if_pos empty]
    rfl

theorem validate_of_isValid (valid : address.IsValid) : address.validate = .ok () := by
  unfold validate check
  rw [if_neg fun outside => not_hasNodePort_iff.mpr outside valid.1, if_neg valid.2]
  rfl

theorem hasNodePort_of_validate (passes : address.validate = .ok ()) : address.HasNodePort := by
  refine Classical.byContradiction fun outside => ?_
  exact nomatch passes.symm.trans (validate_of_hasFlaw (.port outside))

theorem toNat_of_socketPort?_eq_some {port : UInt16} (found : address.socketPort? = some port) :
    port.toNat = address.port.toNat := by
  unfold socketPort? at found
  split at found
  · rename_i fits
    rw [← Option.some.inj found, UInt32.toNat_toUInt16]
    exact Nat.mod_eq_of_lt fits
  · exact nomatch found

/-- The port of a valid address is the same number in the width of sockets. -/
theorem exists_socketPort?_toNat_eq (valid : address.IsValid) :
    ∃ port, address.socketPort? = some port ∧ port.toNat = address.port.toNat := by
  obtain ⟨port, found⟩ := exists_socketPort? (validate_of_isValid valid)
  exact ⟨port, found, toNat_of_socketPort?_eq_some found⟩

end NodeAddress

/-! ### Calls that check their target -/

namespace Exchange

variable {α β : Type} {target : NodeAddress} {request : Bytes}

/-- A result that does not blame an address. -/
def Blameless (result : Except NetworkError α) : Prop :=
  ∀ detail, result ≠ .error (.addressInvalid detail)

/-- A call checks its target. If the target is not valid, the call comes to the complaint about its
flaw, whatever the peer would do, and no connection comes about. If the target is valid, no peer
makes the call end with a complaint about an address. -/
structure ChecksTarget (target : NodeAddress) (call : Peer → Exchange α) : Prop where
  refuses : ¬ target.IsValid → ∃ flaw, target.HasFlaw flaw ∧
    target.validate = .error (.addressInvalid flaw) ∧
    ∀ peer, call peer = ⟨none, .error (.addressInvalid flaw)⟩
  admits : target.IsValid → ∀ peer, Blameless (call peer).result

theorem blameless_ok (value : α) : Blameless (.ok value) := by
  intro detail blames
  cases blames

theorem Blameless.bind {result : Except NetworkError α} {use : α → Except NetworkError β}
    (blameless : Blameless result) (after : ∀ value, Blameless (use value)) :
    Blameless (result.bind use) := by
  intro detail blames
  rcases result with error | value
  · exact blameless detail (congrArg Except.error (Except.error.inj blames))
  · exact after value detail blames

theorem blameless_readBody (target : NodeAddress) (reaction : Reaction) :
    Blameless (readBody target reaction) := by
  intro detail blames
  rcases reaction with _ | _ | octets
  · exact nomatch blames
  · exact nomatch blames
  · have decoded : Blameless (Response.decode octets) := by
      intro detail blames
      cases octets <;> exact nomatch blames
    refine decoded.bind (fun response detail blames => ?_) detail blames
    unfold Response.successBody at blames
    split at blames
    · exact nomatch blames
    · split at blames <;> exact nomatch blames

/-- The door to the socket. -/
theorem checksTarget_write {afterwards : Reaction → Except NetworkError α}
    (blameless : ∀ reaction, Blameless (afterwards reaction)) :
    ChecksTarget target fun peer => write target request peer afterwards := by
  constructor
  · intro invalid
    obtain ⟨flaw, flawed⟩ := NodeAddress.exists_hasFlaw_of_not_isValid invalid
    have refused := NodeAddress.validate_of_hasFlaw flawed
    refine ⟨flaw, flawed, refused, fun peer => ?_⟩
    simp only [write, refused]
    rfl
  · intro valid peer detail
    have passes := NodeAddress.validate_of_isValid valid
    obtain ⟨port, found⟩ := NodeAddress.exists_socketPort? passes
    simp only [write, passes, found]
    intro blames
    cases peer with
    | refuses => cases blames
    | hinders taken hindrance => cases hindrance <;> cases blames
    | reads reaction => exact blameless reaction detail blames

/-- Going on with the result of a call keeps its check of the target. -/
theorem ChecksTarget.andThen {call : Peer → Exchange α} {use : α → Except NetworkError β}
    (checks : ChecksTarget target call) (blameless : ∀ value, Blameless (use value)) :
    ChecksTarget target fun peer => (call peer).andThen use := by
  constructor
  · intro invalid
    obtain ⟨flaw, flawed, refused, ends⟩ := checks.refuses invalid
    refine ⟨flaw, flawed, refused, fun peer => ?_⟩
    rw [ends]
    rfl
  · intro valid peer
    exact (checks.admits valid peer).bind blameless

theorem checksTarget_post (target : NodeAddress) (request : Bytes) :
    ChecksTarget target (post target request) :=
  checksTarget_write fun _ => blameless_ok ()

theorem checksTarget_ask (target : NodeAddress) (request : Bytes) :
    ChecksTarget target (ask target request) :=
  checksTarget_write (blameless_readBody target)

theorem checksTarget_askFor (codec : Codec α) (target : NodeAddress) (request : Bytes) :
    ChecksTarget target (askFor codec target request) := by
  refine (checksTarget_ask target request).andThen fun body detail blames => ?_
  cases decoded : codec.decode body with
  | ok value =>
    rw [decoded] at blames
    exact nomatch blames
  | error fault =>
    rw [decoded] at blames
    exact nomatch blames

theorem checksTarget_confirm (target : NodeAddress) (request : Bytes) :
    ChecksTarget target (confirm target request) :=
  (checksTarget_ask target request).andThen fun _ => blameless_ok ()

end Exchange

/-! ### Calls of a client -/

/-- The calls that manage a node are those of four commands. -/
theorem Operation.isManagement_eq (operation : Operation) :
    operation.isManagement =
      decide (operation.command ∈ [.nodes, .addNode, .removeNode, .nodeState]) := by
  cases operation <;> rfl

namespace Client

theorem target_eq (client : Client) (operation : Operation) (requested : NodeAddress) :
    client.target operation requested =
      if operation.command ∈ [.nodes, .addNode, .removeNode, .nodeState] then client.home
      else requested := by
  simp only [target, Operation.isManagement_eq, decide_eq_true_eq]

theorem checksTarget_perform [Build] (client : Client) (operation : Operation)
    (requested : NodeAddress) :
    Exchange.ChecksTarget (client.target operation requested)
      (client.perform operation requested) := by
  obtain ⟨field, framed, -⟩ := exists_request client operation
  show Exchange.ChecksTarget _ fun peer => client.perform operation requested peer
  simp only [perform, framed]
  cases operation.delivery with
  | posted done =>
    exact (Exchange.checksTarget_post _ _).andThen fun _ => Exchange.blameless_ok _
  | confirmed done =>
    exact (Exchange.checksTarget_confirm _ _).andThen fun _ => Exchange.blameless_ok _
  | answered view =>
    exact (Exchange.checksTarget_askFor _ _ _).andThen fun _ => Exchange.blameless_ok _

/-- No octet leaves for an invalid address, and a valid one is never refused as invalid. This holds
of every call of every client, where management goes to the client's own node and all else where
the caller says, and of the three ways to send octets that are ready; and whatever the peer does.
At an invalid target a call ends with what the check complains about, the port before the host, and
nothing is connected. At a valid one it never ends with a complaint about an address, and the port
is the same number in the width of sockets. -/
theorem invalid_target_gets_nothing [Build] :
    (∀ (settings : Settings) (operation : Operation) (requested : NodeAddress),
      Exchange.ChecksTarget
        (if operation.command ∈ [.nodes, .addNode, .removeNode, .nodeState] then settings.home
          else requested)
        ((Client.mk settings).perform operation requested)) ∧
    (∀ (target : NodeAddress) (request : Bytes),
      Exchange.ChecksTarget target (Exchange.post target request) ∧
      (∀ {α : Type} (codec : Codec α),
        Exchange.ChecksTarget target (Exchange.askFor codec target request)) ∧
      Exchange.ChecksTarget target (Exchange.confirm target request)) ∧
    ∀ address : NodeAddress, address.IsValid →
      ∃ port, address.socketPort? = some port ∧ port.toNat = address.port.toNat := by
  refine ⟨fun settings operation requested => ?_, fun target request => ⟨?_, ?_, ?_⟩,
    fun address => NodeAddress.exists_socketPort?_toNat_eq⟩
  · have checks := checksTarget_perform ⟨settings⟩ operation requested
    rwa [target_eq] at checks
  · exact Exchange.checksTarget_post target request
  · exact fun codec => Exchange.checksTarget_askFor codec target request
  · exact Exchange.checksTarget_confirm target request

/-- With everything wrong about the target the port is what is complained about, even if the peer
would answer. A node is added at the client's own node, which has a valid address, so there the
target that the caller gives does no harm. -/
theorem invalid_target_gets_nothing_of_two :
    ((Client.mk {}).perform .firstBlocks ⟨"", 1024⟩ (.reads (.answers [1]))).sent = none ∧
    ((Client.mk {}).perform .firstBlocks ⟨"", 1024⟩ (.reads (.answers [1]))).result =
      .error (.addressInvalid "node address port has wrong value 1024") ∧
    ∀ peer detail, ((Client.mk {}).perform (.addNode ⟨"node", 9001⟩) ⟨"", 1024⟩ peer).result ≠
      .error (.addressInvalid detail) := by
  have invalid : ¬ (NodeAddress.mk "" 1024).IsValid := fun valid => valid.2 rfl
  have valid : (NodeAddress.mk "localhost" 8766).IsValid := ⟨⟨by decide, by decide⟩, by decide⟩
  obtain ⟨flaw, flawed, -, ends⟩ :=
    (invalid_target_gets_nothing.1 {} .firstBlocks ⟨"", 1024⟩).refuses invalid
  have added := (invalid_target_gets_nothing.1 {} (.addNode ⟨"node", 9001⟩) ⟨"", 1024⟩).admits
  refine ⟨congrArg Exchange.sent (ends _), ?_, added valid⟩
  rw [ends]
  rcases flawed with outside | ⟨inside, empty⟩
  · rfl
  · exact absurd inside.1 (by decide)

end Client

end SqlLedger
