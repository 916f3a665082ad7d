/-
A run of the command line, step by step.

`runInvocation` says what a run comes to, and there a report is printed as a whole or not at all. A
program prints line after line, and what it has printed when it goes wrong stays printed. `steps`
is the run in these terms: what has been printed and sent so far is kept beside a failure. The two
agree (`run_steps`), because a subcommand has its whole answer before it prints the first line, and
from there on nothing fails.
-/

import Mathlib
import SqlLedger.CommandLine.Run
import SqlLedger.Proofs.Result

namespace SqlLedger.CommandLine

open Result

/-! ### Steps -/

/-- What a run has done so far. -/
structure Trace where
  /-- The text on standard output. -/
  printed : String := ""
  /-- The octets that were read at the far end of each connection. -/
  sent : List Bytes := []
  deriving DecidableEq, Repr

/-- Steps of a run, which may fail; what was done before the failure stays done. -/
abbrev Steps := ExceptT Failure (StateM Trace)

def print (text : String) : Steps Unit :=
  modify fun trace => { trace with printed := trace.printed ++ text }

/-- Prints a text for each of some entries, one after the other. -/
def printEach {α : Type} (text : α → String) : List α → Steps Unit
  | [] => return
  | entry :: entries => do
    print (text entry)
    printEach text entries

/-- Makes a call to the client's own node. -/
def call [Build] (client : Client) (operation : Operation) (peer : Peer) :
    Steps operation.Answer := do
  let exchange := client.perform operation client.home peer
  modify fun trace => { trace with sent := trace.sent ++ exchange.sent.toList }
  MonadExcept.ofExcept (exchange.result.mapError .network)

/-- The steps of a subcommand. -/
def Subcommand.steps [Build] (client : Client) (peer : Peer) : Subcommand → Steps Unit
  | state => do
    let state ← call client .nodeState peer
    print (line (stateJson state).print)
  | nodes => do
    let nodes ← call client .nodes peer
    printEach (fun node => line node.display) nodes
  | addNode host port => do
    let node ← MonadExcept.ofExcept (describedNode host port)
    call client (.addNode node) peer
    print (line s!"added {node.display}")
  | removeNode host port => do
    let node ← MonadExcept.ofExcept (describedNode host port)
    call client (.removeNode node) peer
    print (line s!"removed {node.display}")
  | balance wallet => do
    let balance ← call client (.balance wallet) peer
    print (line (balanceJson balance).print)
  | history wallet => do
    let entries ← call client (.history wallet) peer
    printEach (fun entry => line (historyLine entry)) entries
  | unspent wallet => do
    let unspent ← call client (.unspent wallet []) peer
    printEach (fun output => line (unspentLine output)) unspent.outputs
    print (line s!"chain tip: {Bytes.toHex unspent.lastBlock}")
  | stop => do
    call client .sendVoid peer
    print (line s!"void sent to {client.home.display}")

/-- The steps of a run. -/
def steps [Build] (invocation : Invocation) (files : List Configuration.File)
    (environment : Configuration.Environment) (peer : Peer) : Steps Unit := do
  let settings ← MonadExcept.ofExcept
    ((Configuration.load invocation.config files environment).mapError Failure.settings)
  match invocation.subcommand with
  | none => print usage
  | some subcommand => subcommand.steps ⟨settings⟩ peer

/-! ### What the steps come to -/

theorem run_print (text : String) (trace : Trace) :
    (print text).run.run trace = (.ok (), { trace with printed := trace.printed ++ text }) :=
  rfl

/-- Printing some entries one after the other comes to printing them at once. -/
theorem run_printEach {α : Type} (text : α → String) (entries : List α) (trace : Trace) :
    (printEach text entries).run.run trace =
      (.ok (), { trace with printed := trace.printed ++ String.join (entries.map text) }) := by
  induction entries generalizing trace with
  | nil =>
    rw [List.map_nil, String.join_nil, String.append_empty]
    rfl
  | cons entry entries inductionHypothesis =>
    rw [printEach, run_bind, run_print, List.map_cons, String.join_cons]
    simp only [inductionHypothesis, String.append_assoc]

theorem run_call [Build] (client : Client) (operation : Operation) (peer : Peer) (trace : Trace) :
    (call client operation peer).run.run trace =
      ((client.perform operation client.home peer).result.mapError .network,
        { trace with
          sent := trace.sent ++ (client.perform operation client.home peer).sent.toList }) := by
  rw [call]
  cases (client.perform operation client.home peer).result <;> rfl

/-- How a run ends that carries out a plan. -/
def ending [Build] (client : Client) (plan : Plan) (peer : Peer) (trace : Trace) :
    Except Failure Unit × Trace :=
  let exchange := client.perform plan.operation client.home peer
  let sent := trace.sent ++ exchange.sent.toList
  match exchange.result with
  | .ok answer => (.ok (), ⟨trace.printed ++ plan.report answer, sent⟩)
  | .error error => (.error (.network error), ⟨trace.printed, sent⟩)

theorem run_call_bind [Build] (client : Client) (plan : Plan) (peer : Peer) (trace : Trace)
    (next : plan.operation.Answer → Steps Unit)
    (reports : ∀ answer trace, (next answer).run.run trace =
      (.ok (), { trace with printed := trace.printed ++ plan.report answer })) :
    (call client plan.operation peer >>= next).run.run trace = ending client plan peer trace := by
  rw [run_bind, run_call, ending]
  cases (client.perform plan.operation client.home peer).result with
  | ok answer => exact reports answer _
  | error error => rfl

theorem run_subcommand [Build] (client : Client) (peer : Peer) (subcommand : Subcommand)
    (trace : Trace) :
    (subcommand.steps client peer).run.run trace =
      match subcommand.plan client.home with
      | .ok plan => ending client plan peer trace
      | .error failure => (.error failure, trace) := by
  cases subcommand with
  | state => exact run_call_bind client ⟨.nodeState, reportState⟩ peer trace _ fun _ _ => rfl
  | nodes =>
    exact run_call_bind client ⟨.nodes, reportNodes⟩ peer trace _ fun _ _ => run_printEach _ _ _
  | addNode host port =>
    -- The node is described before the call, so a description that is refused leaves no trace.
    rw [Subcommand.steps, run_bind, run_ofExcept, Subcommand.plan]
    cases describedNode host port with
    | ok node => exact run_call_bind client ⟨.addNode node, _⟩ peer trace _ fun _ _ => rfl
    | error failure => rfl
  | removeNode host port =>
    rw [Subcommand.steps, run_bind, run_ofExcept, Subcommand.plan]
    cases describedNode host port with
    | ok node => exact run_call_bind client ⟨.removeNode node, _⟩ peer trace _ fun _ _ => rfl
    | error failure => rfl
  | balance wallet =>
    exact run_call_bind client ⟨.balance wallet, reportBalance⟩ peer trace _ fun _ _ => rfl
  | history wallet =>
    exact run_call_bind client ⟨.history wallet, reportHistory⟩ peer trace _
      fun _ _ => run_printEach _ _ _
  | unspent wallet =>
    refine run_call_bind client ⟨.unspent wallet [], reportUnspent⟩ peer trace _ fun _ _ => ?_
    rw [run_bind, run_printEach]
    simp only [run_print, String.append_assoc, reportUnspent]
  | stop => exact run_call_bind client ⟨.sendVoid, _⟩ peer trace _ fun _ _ => rfl

/-- A run by its cases: the settings, the subcommand, its plan. -/
theorem runInvocation_eq [Build] (invocation : Invocation) (files : List Configuration.File)
    (environment : Configuration.Environment) (peer : Peer) :
    runInvocation invocation files environment peer =
      match Configuration.load invocation.config files environment with
      | .error fault => .failure (.settings fault) none
      | .ok settings =>
        match invocation.subcommand with
        | none => .success usage none
        | some subcommand =>
          match subcommand.plan settings.home with
          | .error failure => .failure failure none
          | .ok plan => perform ⟨settings⟩ plan peer := by
  unfold runInvocation prepare
  cases Configuration.load invocation.config files environment with
  | error fault => rfl
  | ok settings =>
    cases invocation.subcommand with
    | none => rfl
    | some subcommand =>
      simp only [Except.mapError, bind, Except.bind, Client.home]
      cases subcommand.plan settings.home <;> rfl

/-- What an outcome says of the result of the steps: a failure is complained about in one line. -/
def Outcome.Reports (outcome : Outcome) : Except Failure Unit → Prop
  | .ok () => outcome.status = 0 ∧ outcome.complaint = ""
  | .error failure => outcome.status ≠ 0 ∧ outcome.output = "" ∧
    outcome.complaint = "Error: " ++ failure.diagnostic ++ "\n"

/-- A run that carries out a plan prints and sends what performing the plan comes to. -/
theorem exists_ending [Build] (client : Client) (plan : Plan) (peer : Peer) :
    let outcome := perform client plan peer
    ∃ result, ending client plan peer {} = (result, ⟨outcome.output, outcome.sent.toList⟩) ∧
      outcome.Reports result := by
  simp only [ending, perform, String.empty_append, List.nil_append]
  cases (client.perform plan.operation client.home peer).result with
  | ok answer => exact ⟨.ok (), rfl, rfl, rfl⟩
  | error error => exact ⟨.error (.network error), rfl, Nat.one_ne_zero, rfl, rfl⟩

/-- The steps of a run print and send what the run comes to, and nothing else. -/
theorem run_steps [Build] (invocation : Invocation) (files : List Configuration.File)
    (environment : Configuration.Environment) (peer : Peer) :
    let outcome := runInvocation invocation files environment peer
    ∃ result, (steps invocation files environment peer).run.run {} =
        (result, ⟨outcome.output, outcome.sent.toList⟩) ∧
      outcome.Reports result := by
  rw [runInvocation_eq, steps, run_bind, run_ofExcept]
  cases Configuration.load invocation.config files environment with
  | error fault => exact ⟨_, rfl, Nat.one_ne_zero, rfl, rfl⟩
  | ok settings =>
    cases invocation.subcommand with
    | none => exact ⟨_, rfl, rfl, rfl⟩
    | some subcommand =>
      simp only [Except.mapError, run_subcommand, Client.home]
      cases subcommand.plan settings.home with
      | error failure => exact ⟨_, rfl, Nat.one_ne_zero, rfl, rfl⟩
      | ok plan => exact exists_ending ⟨settings⟩ plan peer

end SqlLedger.CommandLine
