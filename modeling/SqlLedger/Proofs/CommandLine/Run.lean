/-
A run of the command line prints all or nothing, and sends one frame at most.

What a subcommand asks of the client is said here without the functions that plan it
(`Subcommand.Asks`): a subcommand that names a node asks for nothing unless the port is a numeral
of 32 bits and the address is valid. The plans are exactly what is asked (`plan_eq_ok_iff`). So a
run ends well if the settings load, the subcommand asks for a call and the call succeeds; and since
the call is the only thing in a run that sends, and sends nothing but its one request, there is
nothing on the wire that the subcommand did not ask for.
-/

import SqlLedger.Proofs.Client.Exchange
import SqlLedger.Proofs.CommandLine.Steps

namespace SqlLedger.CommandLine

open Result

/-! ### What a subcommand asks for -/

/-- A host and a port describe a valid address whose port is the number that the port spells. -/
def Describes (host port : String) (node : NodeAddress) : Prop :=
  ∃ number, Text.readUnsigned (UInt32.size - 1) port = .ok number ∧
    node = ⟨host, UInt32.ofNat number⟩ ∧ node.validate = .ok ()

/-- The call that a subcommand asks for. -/
inductive Subcommand.Asks : Subcommand → Operation → Prop
  | state : Asks .state .nodeState
  | nodes : Asks .nodes .nodes
  | addNode {host port : String} {node : NodeAddress} (described : Describes host port node) :
      Asks (.addNode host port) (.addNode node)
  | removeNode {host port : String} {node : NodeAddress} (described : Describes host port node) :
      Asks (.removeNode host port) (.removeNode node)
  | balance (wallet : String) : Asks (.balance wallet) (.balance wallet)
  | history (wallet : String) : Asks (.history wallet) (.history wallet)
  | unspent (wallet : String) : Asks (.unspent wallet) (.unspent wallet [])
  | stop : Asks .stop .sendVoid

/-- The catalog command of a subcommand. -/
def Subcommand.command : Subcommand → Command
  | state => .nodeState
  | nodes => .nodes
  | addNode .. => .addNode
  | removeNode .. => .removeNode
  | balance _ => .balance
  | history _ => .history
  | unspent _ => .unspent
  | stop => .void

/-- A subcommand asks for a call of its own command. -/
theorem Subcommand.Asks.command_eq {subcommand : Subcommand} {operation : Operation}
    (asks : subcommand.Asks operation) : operation.command = subcommand.command := by
  cases asks <;> rfl

theorem describedNode_eq_ok_iff {host port : String} {node : NodeAddress} :
    describedNode host port = .ok node ↔ Describes host port node := by
  simp only [describedNode, bind_eq_ok_iff, mapError_eq_ok_iff]
  constructor
  · rintro ⟨number, spelled, _, valid, same⟩
    cases same
    exact ⟨number, spelled, rfl, valid⟩
  · rintro ⟨number, spelled, rfl, valid⟩
    exact ⟨number, spelled, (), valid, rfl⟩

/-- The plans for a subcommand are the calls that it asks for. -/
theorem exists_plan_iff (home : NodeAddress) {subcommand : Subcommand} {operation : Operation} :
    (∃ report, subcommand.plan home = .ok ⟨operation, report⟩) ↔ subcommand.Asks operation := by
  constructor
  · rintro ⟨report, planned⟩
    cases subcommand with
    | addNode host port =>
      obtain ⟨node, described, same⟩ := map_eq_ok_iff.mp planned
      cases same
      exact .addNode (describedNode_eq_ok_iff.mp described)
    | removeNode host port =>
      obtain ⟨node, described, same⟩ := map_eq_ok_iff.mp planned
      cases same
      exact .removeNode (describedNode_eq_ok_iff.mp described)
    | _ =>
      cases planned
      constructor
  · intro asks
    cases asks with
    | addNode described =>
      exact ⟨_, map_eq_ok_iff.mpr ⟨_, describedNode_eq_ok_iff.mpr described, rfl⟩⟩
    | removeNode described =>
      exact ⟨_, map_eq_ok_iff.mpr ⟨_, describedNode_eq_ok_iff.mpr described, rfl⟩⟩
    | _ => exact ⟨_, rfl⟩

/-! ### How a run ends -/

variable {invocation : Invocation} {files : List Configuration.File}
  {environment : Configuration.Environment} {peer : Peer}

theorem status_perform_eq_zero_iff [Build] {client : Client} {plan : Plan} :
    (perform client plan peer).status = 0 ↔
      ∃ answer, (client.perform plan.operation client.home peer).result = .ok answer := by
  simp only [perform]
  cases (client.perform plan.operation client.home peer).result with
  | ok answer => exact ⟨fun _ => ⟨answer, rfl⟩, fun _ => rfl⟩
  | error error => exact ⟨fun ended => absurd ended Nat.one_ne_zero, by rintro ⟨_, ⟨⟩⟩⟩

theorem sent_perform [Build] (client : Client) (plan : Plan) (peer : Peer) :
    (perform client plan peer).sent =
      (client.perform plan.operation client.home peer).sent := by
  simp only [perform]
  cases (client.perform plan.operation client.home peer).result <;> rfl

/-- A run whose call succeeds prints the report on the answer. -/
theorem exists_runInvocation_eq_success [Build] {settings : Settings} {subcommand : Subcommand}
    {plan : Plan} {answer : plan.operation.Answer}
    (loaded : Configuration.load invocation.config files environment = .ok settings)
    (given : invocation.subcommand = some subcommand)
    (planned : subcommand.plan settings.home = .ok plan)
    (answered : ((Client.mk settings).perform plan.operation settings.home peer).result =
      .ok answer) :
    ∃ sent, runInvocation invocation files environment peer =
      .success (plan.report answer) sent := by
  have performed : ((Client.mk settings).perform plan.operation (Client.mk settings).home
      peer).result = .ok answer := answered
  refine ⟨((Client.mk settings).perform plan.operation settings.home peer).sent, ?_⟩
  simp only [runInvocation_eq, loaded, given, planned, perform, performed]
  rfl

/-- A run ends well if and only if the settings load and the subcommand, if there is one, asks for
a call that succeeds. -/
theorem status_runInvocation_eq_zero_iff [Build] :
    (runInvocation invocation files environment peer).status = 0 ↔
      ∃ settings, Configuration.load invocation.config files environment = .ok settings ∧
        ∀ subcommand ∈ invocation.subcommand, ∃ operation, subcommand.Asks operation ∧
          ∃ answer, ((Client.mk settings).perform operation settings.home peer).result =
            .ok answer := by
  rw [runInvocation_eq]
  cases Configuration.load invocation.config files environment with
  | error fault => exact ⟨fun ended => absurd ended Nat.one_ne_zero, nofun⟩
  | ok settings =>
    cases invocation.subcommand with
    | none => exact ⟨fun _ => ⟨settings, rfl, nofun⟩, fun _ => rfl⟩
    | some subcommand =>
      constructor
      · intro ended
        refine ⟨settings, rfl, ?_⟩
        rintro _ ⟨⟩
        cases planned : subcommand.plan settings.home with
        | error failure =>
          simp only [planned] at ended
          exact absurd ended Nat.one_ne_zero
        | ok plan =>
          simp only [planned] at ended
          exact ⟨plan.operation, (exists_plan_iff settings.home).mp ⟨plan.report, planned⟩,
            status_perform_eq_zero_iff.mp ended⟩
      · rintro ⟨_, ⟨⟩, calls⟩
        obtain ⟨operation, asks, succeeds⟩ := calls subcommand rfl
        obtain ⟨report, planned⟩ := (exists_plan_iff settings.home).mpr asks
        simp only [planned]
        exact status_perform_eq_zero_iff.mpr succeeds

/-- What a run sends, its call sends. -/
theorem exists_call_of_sent [Build] {octets : Bytes}
    (sent : octets ∈ (runInvocation invocation files environment peer).sent) :
    ∃ settings subcommand operation,
      Configuration.load invocation.config files environment = .ok settings ∧
      invocation.subcommand = some subcommand ∧ subcommand.Asks operation ∧
      octets ∈ ((Client.mk settings).perform operation settings.home peer).sent := by
  rw [runInvocation_eq] at sent
  split at sent
  · cases sent
  · rename_i settings loaded
    split at sent
    · cases sent
    · rename_i subcommand given
      split at sent
      · cases sent
      · rename_i plan planned
        rw [sent_perform] at sent
        exact ⟨settings, subcommand, plan.operation, loaded, given,
          (exists_plan_iff settings.home).mp ⟨plan.report, planned⟩, sent⟩

/-- The command line prints all or nothing and sends one frame at most. For every argument list
that is accepted, a run whose steps print and send one thing after the other ends in one of two
ways: without a failure, with status zero and nothing on standard error, or with a failure, with
another status, nothing on standard output and one line that names the failure. It ends well if
and only if the settings load and the subcommand, if there is one, asks for a call, so that a port
is a numeral of 32 bits and an address is valid, and the call succeeds. It opens one connection at
most, and only for the call that the subcommand asks for with settings that load; what it sends
then is the beginning of one frame of the command of the subcommand, with the payload of the call
and the token where the command requires it, and the whole of it to a peer that reads it. -/
theorem run_all_or_nothing [Build] {arguments : List String} {invocation : Invocation}
    (accepted : readArguments arguments = .ok invocation) (files : List Configuration.File)
    (environment : Configuration.Environment) (peer : Peer) :
    ∃ outcome result,
      run arguments files environment peer = .ok outcome ∧
      (steps invocation files environment peer).run.run {} =
        (result, ⟨outcome.output, outcome.sent.toList⟩) ∧
      (result = .ok () ∧ outcome.status = 0 ∧ outcome.complaint = "" ∨
        ∃ failure, result = .error failure ∧ outcome.status ≠ 0 ∧ outcome.output = "" ∧
          outcome.complaint = "Error: " ++ failure.diagnostic ++ "\n") ∧
      (outcome.status = 0 ↔
        ∃ settings, Configuration.load invocation.config files environment = .ok settings ∧
          ∀ subcommand ∈ invocation.subcommand, ∃ operation, subcommand.Asks operation ∧
            ∃ answer, ((Client.mk settings).perform operation settings.home peer).result =
              .ok answer) ∧
      ∀ octets ∈ outcome.sent, ∃ (settings : Settings) (subcommand : Subcommand)
        (operation : Operation) (envelope : Envelope),
        Configuration.load invocation.config files environment = .ok settings ∧
        invocation.subcommand = some subcommand ∧ subcommand.Asks operation ∧
        envelope.command = .ok subcommand.command ∧
        envelope.payload = (operation.payload settings.home).encode ∧
        envelope.extra = (if operation.command.requiresAuth then settings.tokenBytes else []) ∧
        octets <+: envelope.encode ∧
        ∀ reaction, peer = .reads reaction → octets = envelope.encode := by
  obtain ⟨result, ran, reports⟩ := run_steps invocation files environment peer
  refine ⟨runInvocation invocation files environment peer, result, ?_, ran, ?_,
    status_runInvocation_eq_zero_iff, fun octets sent => ?_⟩
  · rw [run, accepted]
    rfl
  · cases result with
    | ok done => exact Or.inl ⟨rfl, reports⟩
    | error failure => exact Or.inr ⟨failure, rfl, reports⟩
  · obtain ⟨settings, subcommand, operation, loaded, given, asks, inCall⟩ :=
      exists_call_of_sent sent
    obtain ⟨field, framed, known⟩ := Client.exists_request ⟨settings⟩ operation
    refine ⟨settings, subcommand, operation, ⟨field, (operation.payload settings.home).encode,
      Client.extraFor settings operation.command⟩, loaded, given, asks, ?_, rfl, rfl, ?_⟩
    · rw [← asks.command_eq]
      exact known
    · exact Client.isPrefix_of_sent_perform framed inCall

/-- A node with a port that no node has is not added, and nothing is sent; a node that hears that it
may stop need not answer. -/
theorem run_all_or_nothing_of_two :
    (∃ outcome, run ["addnode", "--host", "node", "-p", "70000"] [] [] (.reads .resets) =
        .ok outcome ∧
      outcome.status ≠ 0 ∧ outcome.output = "" ∧ outcome.sent = none) ∧
    ∃ outcome, run ["stop"] [] [] (.reads .resets) = .ok outcome ∧
      outcome.status = 0 ∧ outcome.complaint = "" := by
  have addNode : readArguments ["addnode", "--host", "node", "-p", "70000"] =
      .ok ⟨"config", some (.addNode "node" "70000")⟩ := rfl
  have stop : readArguments ["stop"] = .ok ⟨"config", some .stop⟩ := rfl
  have loaded : Configuration.load "config" [] [] = .ok {} := rfl
  have described : ∀ node, ¬ Describes "node" "70000" node := by
    rintro _ ⟨number, spelled, rfl, valid⟩
    have read : Text.readUnsigned (UInt32.size - 1) "70000" = .ok 70000 := rfl
    cases read.symm.trans spelled
    cases valid
  have asksNothing : ∀ operation, ¬ (Subcommand.addNode "node" "70000").Asks operation := by
    intro operation asks
    cases asks with
    | addNode describes => exact described _ describes
  obtain ⟨failed, _, runsFailed, -, failedEnding, failedIff, failedSends⟩ :=
    run_all_or_nothing addNode [] [] (.reads .resets)
  obtain ⟨done, _, runsDone, -, doneEnding, doneIff, -⟩ :=
    run_all_or_nothing stop [] [] (.reads .resets)
  have fails : failed.status ≠ 0 := by
    intro ended
    obtain ⟨_, -, calls⟩ := failedIff.mp ended
    obtain ⟨operation, asks, -⟩ := calls _ rfl
    exact asksNothing operation asks
  have ends : done.status = 0 := by
    refine doneIff.mpr ⟨{}, loaded, ?_⟩
    rintro _ ⟨⟩
    exact ⟨.sendVoid, .stop, (), rfl⟩
  refine ⟨⟨failed, runsFailed, fails, ?_, ?_⟩, done, runsDone, ends, ?_⟩
  · rcases failedEnding with ⟨-, ended, -⟩ | ⟨-, -, -, printed, -⟩
    · exact absurd ended fails
    · exact printed
  · cases sent : failed.sent with
    | none => rfl
    | some octets =>
      obtain ⟨_, _, operation, _, -, ⟨⟩, asks, -⟩ := failedSends octets sent
      exact absurd asks (asksNothing operation)
  · rcases doneEnding with ⟨-, -, complaint⟩ | ⟨-, -, failing, -⟩
    · exact complaint
    · exact absurd ends failing

end SqlLedger.CommandLine
