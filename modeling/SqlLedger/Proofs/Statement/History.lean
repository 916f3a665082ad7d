/-
The envelope of a statement is stored whole or not at all, whatever is done with the statement.

A node works on a statement in place, so what an action has written when it fails stays written.
`InPlace` says so: the state is kept beside the failure. In these terms storing an envelope writes
three parts one after the other, and nothing but the order of the steps keeps a statement with some
of its parts away: all that can fail comes before the first writing
(`perform_storeEnvelope`).

The rest is said of histories, the actions on a statement from the time it was received. No action
changes what the parser reported of the statement, so the comment says the same at all times. A
statement whose envelope is the one in its comment stays so under every action, and one whose
envelope is empty either stays so or comes to have the one in its comment.
-/

import Mathlib
import SqlLedger.Proofs.Result
import SqlLedger.Statement.Basic

namespace SqlLedger.Statement

open Result

/-! ### Actions on a statement -/

/-- What a node asks of a statement. -/
inductive Question
  | use
  | isSelect
  | isUpdate
  | referenceId
  | keyValue
  | rollback
  | envelope
  deriving DecidableEq, Repr

/-- What a node does with a statement. -/
inductive Action
  | setKeyColumn (column : String)
  | setKeyValue (value : String)
  | setRowColumn (column value : String)
  | storeEnvelope
  | ask (question : Question)
  deriving DecidableEq, Repr

/-- What comes of an action that does not fail. -/
inductive Answer
  | done
  | use (use : StatementUse)
  | flag (value : Bool)
  | text (value : String)
  | rollback (undoing : Option String)
  | envelope (envelope : CommentEnvelope)
  deriving DecidableEq, Repr

/-- The answer to a question. -/
def Question.answer (statement : Statement) : Question → Except CommentEnvelope.Fault Answer
  | use => .ok (.use statement.use)
  | isSelect => .ok (.flag statement.isSelect)
  | isUpdate => .ok (.flag statement.isUpdate)
  | referenceId => .ok (.text statement.referenceId)
  | keyValue => .ok (.text statement.keyValue)
  | rollback => .ok (.rollback statement.rollback?)
  | envelope => statement.readEnvelope.map .envelope

/-- Steps on a statement that may fail; what was written before the failure stays written. -/
abbrev InPlace := ExceptT CommentEnvelope.Fault (StateM Statement)

/-- Reads the envelope in the comment and writes its parts into the statement, one by one. -/
def writeEnvelope : InPlace Unit := do
  let envelope ← MonadExcept.ofExcept (← get).readEnvelope
  modify fun statement => { statement with envelope.publicKey := envelope.publicKey }
  modify fun statement => { statement with envelope.signature := envelope.signature }
  modify fun statement => { statement with envelope.transaction := envelope.transaction }

/-- The steps of an action. -/
def Action.steps : Action → InPlace Answer
  | setKeyColumn column => do
    modify fun statement => statement.setKey column statement.keyValue
    return .done
  | setKeyValue value => do
    modify fun statement => statement.setKey statement.keyColumn value
    return .done
  | setRowColumn column value => do
    modify fun statement => statement.setRowColumn column value
    return .done
  | storeEnvelope => do
    writeEnvelope
    return .done
  | ask question => do
    MonadExcept.ofExcept (question.answer (← get))

/-- Performs an action: what comes of it, and the statement as it is then. -/
def perform (statement : Statement) (action : Action) :
    Except CommentEnvelope.Fault Answer × Statement :=
  action.steps.run.run statement

/-- The statement after some actions. -/
def after (statement : Statement) (actions : List Action) : Statement :=
  actions.foldl (fun statement action => (statement.perform action).2) statement

/-! ### One action -/

/-- Writing the parts one by one writes the whole envelope, or fails before anything is written. -/
theorem run_writeEnvelope (statement : Statement) :
    writeEnvelope.run.run statement =
      match statement.storeEnvelope with
      | .ok stored => (.ok (), stored)
      | .error fault => (.error fault, statement) := by
  -- All that can fail is the reading, and it comes before the first writing.
  show (MonadExcept.ofExcept statement.readEnvelope >>= _ : InPlace Unit).run.run statement = _
  rw [run_bind, run_ofExcept, storeEnvelope]
  cases statement.readEnvelope <;> rfl

/-- Storing the envelope stores all of it, or fails and changes nothing. -/
theorem perform_storeEnvelope (statement : Statement) :
    statement.perform .storeEnvelope =
      match statement.storeEnvelope with
      | .ok stored => (.ok .done, stored)
      | .error fault => (.error fault, statement) := by
  rw [perform, Action.steps, run_bind, run_writeEnvelope]
  cases statement.storeEnvelope <;> rfl

theorem perform_storeEnvelope_of_ok {statement : Statement} {envelope : CommentEnvelope}
    (read : statement.readEnvelope = .ok envelope) :
    statement.perform .storeEnvelope = (.ok .done, { statement with envelope }) := by
  rw [perform_storeEnvelope, storeEnvelope, read]
  rfl

theorem perform_storeEnvelope_of_error {statement : Statement} {fault : CommentEnvelope.Fault}
    (read : statement.readEnvelope = .error fault) :
    statement.perform .storeEnvelope = (.error fault, statement) := by
  rw [perform_storeEnvelope, storeEnvelope, read]
  rfl

theorem perform_ask (statement : Statement) (question : Question) :
    statement.perform (.ask question) = (question.answer statement, statement) :=
  run_ofExcept (question.answer statement) statement

/-- No action changes what the parser reported of the statement. -/
theorem outline_perform (statement : Statement) (action : Action) :
    (statement.perform action).2.outline = statement.outline := by
  cases action with
  | storeEnvelope =>
    cases read : statement.readEnvelope with
    | ok envelope => rw [perform_storeEnvelope_of_ok read]
    | error fault => rw [perform_storeEnvelope_of_error read]
  | ask question => rw [perform_ask]
  | _ => rfl

/-- An action leaves the envelope alone or makes it the one in the comment. -/
theorem envelope_perform_cases (statement : Statement) (action : Action) :
    (statement.perform action).2.envelope = statement.envelope ∨
      statement.readEnvelope = .ok (statement.perform action).2.envelope := by
  cases action with
  | storeEnvelope =>
    cases read : statement.readEnvelope with
    | ok envelope =>
      rw [perform_storeEnvelope_of_ok read]
      exact Or.inr rfl
    | error fault =>
      rw [perform_storeEnvelope_of_error read]
      exact Or.inl rfl
  | ask question =>
    rw [perform_ask]
    exact Or.inl rfl
  | _ => exact Or.inl rfl

/-- The envelope of a statement is the one in its comment. -/
def HasEnvelope (statement : Statement) : Prop :=
  statement.readEnvelope = .ok statement.envelope

theorem readEnvelope_perform (statement : Statement) (action : Action) :
    (statement.perform action).2.readEnvelope = statement.readEnvelope := by
  rw [readEnvelope, outline_perform, readEnvelope]

theorem HasEnvelope.perform {statement : Statement} (stored : statement.HasEnvelope)
    (action : Action) : (statement.perform action).2.HasEnvelope := by
  rw [HasEnvelope, readEnvelope_perform]
  rcases envelope_perform_cases statement action with same | read
  · rw [same, stored]
  · exact read

theorem HasEnvelope.perform_storeEnvelope {statement : Statement}
    (stored : statement.HasEnvelope) :
    statement.perform .storeEnvelope = (.ok .done, statement) :=
  perform_storeEnvelope_of_ok stored

/-! ### Histories -/

theorem after_append (statement : Statement) (before later : List Action) :
    statement.after (before ++ later) = (statement.after before).after later :=
  List.foldl_append

theorem after_induction {motive : Statement → Prop} {statement : Statement}
    (start : motive statement)
    (keeps : ∀ (statement : Statement) (action : Action), motive statement →
      motive (statement.perform action).2) (actions : List Action) :
    motive (statement.after actions) := by
  induction actions generalizing statement with
  | nil => exact start
  | cons action later inductionHypothesis =>
    exact inductionHypothesis (keeps statement action start)

theorem readEnvelope_after (statement : Statement) (actions : List Action) :
    (statement.after actions).readEnvelope = statement.readEnvelope := by
  refine after_induction (motive := fun later => later.readEnvelope = statement.readEnvelope) rfl
    (fun later action same => ?_) actions
  rw [readEnvelope_perform, same]

/-- The envelope of a statement that starts without one is empty or the one in the comment. -/
theorem envelope_after {statement : Statement} (empty : statement.envelope = {})
    (actions : List Action) :
    (statement.after actions).envelope = {} ∨ (statement.after actions).HasEnvelope := by
  refine after_induction (motive := fun later => later.envelope = {} ∨ later.HasEnvelope)
    (Or.inl empty) (fun later action either => ?_) actions
  rcases either with empty | stored
  · rw [HasEnvelope, readEnvelope_perform]
    exact (envelope_perform_cases later action).imp_left fun same => same.trans empty
  · exact Or.inr (stored.perform action)

theorem HasEnvelope.after {statement : Statement} (stored : statement.HasEnvelope)
    (actions : List Action) : (statement.after actions).HasEnvelope :=
  after_induction stored (fun _ action kept => kept.perform action) actions

/-- Once the envelope was stored, the statement has it for good. -/
theorem hasEnvelope_after_storeEnvelope {statement : Statement} {envelope : CommentEnvelope}
    (read : statement.readEnvelope = .ok envelope) (later : List Action) :
    (statement.after (.storeEnvelope :: later)).HasEnvelope := by
  have stored : (statement.perform .storeEnvelope).2.HasEnvelope := by
    rw [perform_storeEnvelope_of_ok read]
    exact read
  exact stored.after later

theorem after_storeEnvelope (statement : Statement) (actions : List Action) :
    statement.after (actions ++ [.storeEnvelope]) =
      ((statement.after actions).perform .storeEnvelope).2 :=
  after_append statement actions [.storeEnvelope]

/-- Whether the envelope was stored or could not be, storing it again changes nothing. -/
theorem after_storeEnvelope_again (statement : Statement) (later : List Action) :
    statement.after (.storeEnvelope :: later ++ [.storeEnvelope]) =
      statement.after (.storeEnvelope :: later) := by
  rw [after_storeEnvelope]
  cases read : statement.readEnvelope with
  | ok envelope => rw [(hasEnvelope_after_storeEnvelope read later).perform_storeEnvelope]
  | error fault =>
    have readLater := (readEnvelope_after statement (.storeEnvelope :: later)).trans read
    rw [perform_storeEnvelope_of_error readLater]

theorem envelope_of_stored {statement : Statement} {answer : Answer}
    (succeeded : (statement.perform .storeEnvelope).1 = .ok answer) :
    ∃ envelope, statement.readEnvelope = .ok envelope ∧
      (statement.perform .storeEnvelope).2 = { statement with envelope } := by
  cases read : statement.readEnvelope with
  | ok envelope => exact ⟨envelope, rfl, by rw [perform_storeEnvelope_of_ok read]⟩
  | error fault =>
    rw [perform_storeEnvelope_of_error read] at succeeded
    cases succeeded

theorem unchanged_of_not_stored {statement : Statement} {fault : CommentEnvelope.Fault}
    (failed : (statement.perform .storeEnvelope).1 = .error fault) :
    (statement.perform .storeEnvelope).2 = statement := by
  cases read : statement.readEnvelope with
  | ok envelope =>
    rw [perform_storeEnvelope_of_ok read] at failed
    cases failed
  | error other => rw [perform_storeEnvelope_of_error read]

/-- Whether the envelope can be stored is settled when the statement is received. -/
theorem storeEnvelope_always (statement : Statement) :
    (∀ actions, ((statement.after actions).perform .storeEnvelope).1 = .ok .done) ∨
      ∃ fault, ∀ actions, ((statement.after actions).perform .storeEnvelope).1 = .error fault := by
  cases read : statement.readEnvelope with
  | ok envelope =>
    refine Or.inl fun actions => ?_
    rw [perform_storeEnvelope_of_ok ((readEnvelope_after statement actions).trans read)]
  | error fault =>
    refine Or.inr ⟨fault, fun actions => ?_⟩
    rw [perform_storeEnvelope_of_error ((readEnvelope_after statement actions).trans read)]

/-- The envelope of a statement is never half stored. From a statement as it is received, after any
actions its envelope is empty or the one in its comment, which says the same at all times; and it
is the latter once storing it has succeeded. Where storing fails, nothing of the statement changes,
and where it succeeds, nothing but the envelope. On one statement it succeeds always, or it fails
always and with one fault, whatever came before; and storing again changes nothing. In all this
the parts are written one by one, which comes to the same as storing the envelope at once. -/
theorem envelope_whole_or_empty (outline : StatementOutline) (sql : String) :
    let received : Statement := { outline, sql }
    (∀ actions : List Action,
      (received.after actions).readEnvelope = received.readEnvelope ∧
      ((received.after actions).envelope = {} ∨
        received.readEnvelope = .ok (received.after actions).envelope)) ∧
    (∀ before later : List Action,
      ((received.after before).perform .storeEnvelope).1 = .ok .done →
        received.readEnvelope =
          .ok (received.after (before ++ .storeEnvelope :: later)).envelope) ∧
    (∀ (actions : List Action) (fault : CommentEnvelope.Fault),
      ((received.after actions).perform .storeEnvelope).1 = .error fault →
        received.after (actions ++ [.storeEnvelope]) = received.after actions) ∧
    (∀ (actions : List Action) (answer : Answer),
      ((received.after actions).perform .storeEnvelope).1 = .ok answer →
        ∃ envelope, received.after (actions ++ [.storeEnvelope]) =
          { received.after actions with envelope }) ∧
    ((∀ actions, ((received.after actions).perform .storeEnvelope).1 = .ok .done) ∨
      ∃ fault, ∀ actions, ((received.after actions).perform .storeEnvelope).1 = .error fault) ∧
    (∀ before later : List Action,
      received.after (before ++ .storeEnvelope :: later ++ [.storeEnvelope]) =
        received.after (before ++ .storeEnvelope :: later)) ∧
    ∀ statement : Statement, statement.perform .storeEnvelope =
      match statement.storeEnvelope with
      | .ok stored => (.ok .done, stored)
      | .error fault => (.error fault, statement) := by
  intro received
  have same := readEnvelope_after received
  refine ⟨fun actions => ⟨same actions, ?_⟩, ?_, ?_, ?_, storeEnvelope_always received, ?_,
    perform_storeEnvelope⟩
  · have either := @envelope_after received rfl actions
    rw [HasEnvelope, same] at either
    exact either
  · intro before later done
    obtain ⟨envelope, read, -⟩ := envelope_of_stored done
    have stored := hasEnvelope_after_storeEnvelope read later
    rw [← after_append, HasEnvelope, same] at stored
    exact stored
  · intro actions fault failed
    rw [after_storeEnvelope, unchanged_of_not_stored failed]
  · intro actions answer succeeded
    obtain ⟨envelope, -, stored⟩ := envelope_of_stored succeeded
    exact ⟨envelope, by rw [after_storeEnvelope, stored]⟩
  · intro before later
    rw [List.append_assoc, after_append received before, after_append received before]
    exact after_storeEnvelope_again (received.after before) later

/-- A comment whose parts are all base64, and one whose second part is not: the envelope of the
first is stored and stays, that of the second leaves no trace. -/
theorem envelope_whole_or_empty_of_two :
    let signed : Statement :=
      { outline := ⟨.insert, "notes", ["SIGN:AA==;DATA:AQID;PUBKEY:/w==;"]⟩, sql := "" }
    let garbled : Statement :=
      { outline := ⟨.insert, "notes", ["SIGN:AA==;DATA:!;PUBKEY:/w==;"]⟩, sql := "" }
    signed.readEnvelope =
        .ok { publicKey := [0xFF], signature := [0], transaction := [1, 2, 3] } ∧
      signed.readEnvelope = .ok (signed.after [.setKeyColumn "id", .storeEnvelope,
        .setKeyValue "7", .ask .rollback]).envelope ∧
      garbled.readEnvelope = .error ⟨.transaction, .invalidByte 33 0⟩ ∧
      garbled.after [.setKeyColumn "id", .storeEnvelope] =
        garbled.after [.setKeyColumn "id"] := by
  intro signed garbled
  have signedRead : signed.readEnvelope =
      .ok { publicKey := [0xFF], signature := [0], transaction := [1, 2, 3] } := by
    cbv
  have garbledRead : garbled.readEnvelope = .error ⟨.transaction, .invalidByte 33 0⟩ := by
    cbv
  have done : ((signed.after [.setKeyColumn "id"]).perform .storeEnvelope).1 = .ok .done := by
    rw [perform_storeEnvelope_of_ok ((readEnvelope_after signed _).trans signedRead)]
  have failed : ((garbled.after [.setKeyColumn "id"]).perform .storeEnvelope).1 =
      .error ⟨.transaction, .invalidByte 33 0⟩ := by
    rw [perform_storeEnvelope_of_error ((readEnvelope_after garbled _).trans garbledRead)]
  obtain ⟨-, kept, -⟩ := envelope_whole_or_empty signed.outline signed.sql
  obtain ⟨-, -, untouched, -⟩ := envelope_whole_or_empty garbled.outline garbled.sql
  exact ⟨signedRead, kept [.setKeyColumn "id"] [.setKeyValue "7", .ask .rollback] done,
    garbledRead, untouched [.setKeyColumn "id"] _ failed⟩

end SqlLedger.Statement
