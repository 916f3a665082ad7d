/-
The report on the state of a node cannot be forged.

The host in a state is text that the node chose, and a reader of the report sees nothing but lines.
Each member of the printed object stands on a line of its own, and nothing that is written for a
host or for a word ends a line, so a report has seven lines whatever the node answered
(`lists_reportState`). A reader of the JSON finds the five fields of the state again, since the
report is an object with blanks around its members (`read?_reportState`); hence a state can be told
from its report.
-/

import SqlLedger.Proofs.Client.Answer
import SqlLedger.Proofs.CommandLine.Listing
import SqlLedger.Proofs.Json.Document

namespace SqlLedger

/-! ### Fields -/

/-- A value whose text at the first level the reader takes for it, and which ends no line there. -/
structure Json.IsField (value : Json) : Prop where
  spells : Json.Spells (Json.printAt 1 value) value
  whole : '\n' ∉ Json.printAt 1 value

theorem Json.lineFeed_notMem_printText (text : String) : '\n' ∉ Json.printText text :=
  fun member => Json.not_control_of_mem_printText text '\n' member (by decide)

theorem Json.isField_text (text : String) : (Json.text text).IsField where
  spells := Json.spells_text text
  whole := Json.lineFeed_notMem_printText text

theorem Json.isField_integer (word : Int64) : (Json.integer word.toInt).IsField where
  spells := Json.spells_integer word
  whole := DecimalLayout.notMem_toString (by decide) word.toInt

namespace CommandLine

/-! ### The report as an object -/

/-- The end of a line and the indentation of the next one are blanks. -/
def newLine (level : Nat) : Json.Blanks where
  val := Json.newLine level
  property := by
    intro char member
    rcases List.mem_cons.mp member with rfl | indentation
    · decide
    · rw [List.eq_of_mem_replicate indentation]
      decide

/-- A member as it is printed, up to what stands behind its value. -/
def printedMember (name : String) {value : Json} (field : value.IsField) (trail : Json.Blanks) :
    Json.Member where
  name := name
  value := value
  chars := Json.printAt 1 value
  spells := field.spells
  lead := newLine 1
  beforeColon := .none
  behindColon := .space
  trail := trail

/-- The members of a state behind the host. -/
def countsOf (state : NodeState) : List Json.Member :=
  [printedMember "blocks_number" (Json.isField_integer state.blocks) .none,
    printedMember "expecting_blocks_height" (Json.isField_integer state.expectedHeight) .none,
    printedMember "transactions_cached" (Json.isField_integer state.cachedTransactions) .none,
    printedMember "unspent_outputs" (Json.isField_integer state.unspentOutputs) (newLine 0)]

theorem toList_reportState (state : NodeState) :
    (reportState state).toList = Json.printAt 0 (stateJson state) ++ ['\n'] := by
  rw [reportState, line, String.toList_append, Json.print, String.toList_ofList]
  rfl

theorem reportState_eq_document (state : NodeState) :
    reportState state = Json.document .none
      (printedMember "host" (Json.isField_text state.host) .none) (countsOf state)
      ⟨['\n'], List.forall_mem_singleton.mpr rfl⟩ := by
  rw [← String.toList_inj, toList_reportState, Json.document, String.toList_ofList, stateJson]
  simp only [Json.printAt.eq_def 0, Json.printMembers, countsOf, printedMember, newLine,
    Json.Blanks.none, Json.Blanks.space, Json.membersText, Json.Member.text,
    List.append_assoc, List.cons_append, List.nil_append]

/-- The fields of a state are read back from the report on it. -/
theorem read?_reportState (state : NodeState) :
    Json.read? (reportState state) = some (stateJson state) := by
  have names : ["host", "blocks_number", "expecting_blocks_height", "transactions_cached",
      "unspent_outputs"].Pairwise (· ≠ ·) := by
    decide
  rw [reportState_eq_document]
  exact Json.read?_document _ _ (List.pairwise_map.mp names)

/-- A state can be told from the report on it. -/
theorem reportState_injective : Function.Injective reportState := by
  rintro ⟨host, blocks, expected, cached, unspent⟩ ⟨otherHost, otherBlocks, otherExpected,
    otherCached, otherUnspent⟩ same
  have read := read?_reportState ⟨host, blocks, expected, cached, unspent⟩
  rw [same, read?_reportState] at read
  simp only [stateJson, Option.some.injEq, Json.object.injEq, List.cons.injEq, Prod.mk.injEq,
    Json.text.injEq, Json.integer.injEq, Int64.toInt_inj, true_and, and_true] at read
  obtain ⟨rfl, rfl, rfl, rfl, rfl⟩ := read
  rfl

/-! ### The report as lines -/

/-- The line of a member in a printed object. -/
def memberLine (name : String) (value : Json) (ending : List Char) : String :=
  String.ofList (' ' :: ' ' :: Json.printText name ++ ':' :: ' ' :: Json.printAt 1 value ++ ending)

theorem lineFeed_notMem_memberLine (name : String) {value : Json} (field : value.IsField)
    {ending : List Char} (whole : '\n' ∉ ending) :
    '\n' ∉ (memberLine name value ending).toList := by
  have quoted := Json.lineFeed_notMem_printText name
  have printed := field.whole
  simp only [memberLine, String.toList_ofList, List.mem_append, List.mem_cons, quoted, printed,
    whole]
  decide

/-- The lines of the report on a state: one for each field between the braces. -/
def stateLines (state : NodeState) : List String :=
  ["\x7b", memberLine "host" (.text state.host) [','],
    memberLine "blocks_number" (.integer state.blocks.toInt) [','],
    memberLine "expecting_blocks_height" (.integer state.expectedHeight.toInt) [','],
    memberLine "transactions_cached" (.integer state.cachedTransactions.toInt) [','],
    memberLine "unspent_outputs" (.integer state.unspentOutputs.toInt) [], "\x7d"]

theorem reportState_eq_join (state : NodeState) :
    reportState state = String.join ((stateLines state).map (· ++ "\n")) := by
  rw [← String.toList_inj, toList_reportState, stateJson]
  simp only [stateLines, Text.toList_join_cons, memberLine, String.toList_ofList,
    Json.printAt.eq_def 0, Json.printMembers, List.append_assoc, List.cons_append, List.nil_append]
  rfl

/-- The report on a state has these lines and no other ones. -/
theorem lists_reportState (state : NodeState) : Lists (reportState state) (stateLines state) := by
  have comma : '\n' ∉ [','] := by decide
  have count (name : String) (word : Int64) {ending : List Char} (whole : '\n' ∉ ending) :
      '\n' ∉ (memberLine name (.integer word.toInt) ending).toList :=
    lineFeed_notMem_memberLine name (Json.isField_integer word) whole
  rw [reportState_eq_join]
  refine (Text.forall_join_consistsOf_iff _).mpr ?_
  simp only [stateLines, List.forall_mem_cons]
  exact ⟨by decide, lineFeed_notMem_memberLine _ (Json.isField_text state.host) comma,
    count _ _ comma, count _ _ comma, count _ _ comma, count _ _ List.not_mem_nil, by decide, nofun⟩

/-! ### Runs that ask for the state -/

/-- A run asks for the state of a node, and this is the answer. -/
def HearsState [Build] (invocation : Invocation) (files : List Configuration.File)
    (environment : Configuration.Environment) (peer : Peer) (state : NodeState) : Prop :=
  invocation.subcommand = some .state ∧
    ∃ settings, Configuration.load invocation.config files environment = .ok settings ∧
      ((Client.mk settings).perform .nodeState settings.home peer).result = .ok state

variable {invocation : Invocation} {files : List Configuration.File}
  {environment : Configuration.Environment} {peer : Peer} {state : NodeState}

/-- Every state that can be written is the answer of some peer, whatever its host and its counts. -/
theorem hearsState_of_fits [Build] {settings : Settings}
    (given : invocation.subcommand = some .state)
    (loaded : Configuration.load invocation.config files environment = .ok settings)
    (valid : settings.home.validate = .ok ()) (fits : Codec.nodeState.Fits state) :
    HearsState invocation files environment
      (.reads (.answers (Response.success Codec.nodeState state).encode)) state :=
  ⟨given, settings, loaded,
    Client.result_perform_success ⟨settings⟩ .nodeState settings.home rfl valid fits⟩

theorem exists_runInvocation_eq_reportState [Build]
    (hears : HearsState invocation files environment peer state) :
    ∃ sent, runInvocation invocation files environment peer =
      .success (reportState state) sent := by
  obtain ⟨given, settings, loaded, answered⟩ := hears
  have planned : Subcommand.state.plan settings.home = .ok ⟨.nodeState, reportState⟩ := rfl
  exact exists_runInvocation_eq_success loaded given planned answered

/-- The report on the state of a node cannot be forged by the host in it. A run that asks for the
state and is answered prints exactly seven lines, whatever text the host is and whatever words the
counts are. They are one JSON object, a reader of which finds the host and the counts again, and no
other state that a run is answered with is printed like that. -/
theorem state_is_read_back [Build] (hears : HearsState invocation files environment peer state) :
    ∃ output sent, runInvocation invocation files environment peer = .success output sent ∧
      (∃ lines, lines.length = 7 ∧ Lists output lines) ∧
      Json.read? output = some (.object [("host", .text state.host),
        ("blocks_number", .integer state.blocks.toInt),
        ("expecting_blocks_height", .integer state.expectedHeight.toInt),
        ("transactions_cached", .integer state.cachedTransactions.toInt),
        ("unspent_outputs", .integer state.unspentOutputs.toInt)]) ∧
      ∀ otherInvocation otherFiles otherEnvironment otherPeer other,
        HearsState otherInvocation otherFiles otherEnvironment otherPeer other →
        (runInvocation otherInvocation otherFiles otherEnvironment otherPeer).output = output →
          other = state := by
  obtain ⟨sent, printed⟩ := exists_runInvocation_eq_reportState hears
  refine ⟨_, sent, printed, ⟨stateLines state, rfl, lists_reportState state⟩,
    read?_reportState state, ?_⟩
  intro otherInvocation otherFiles otherEnvironment otherPeer other hearsOther same
  obtain ⟨otherSent, otherPrinted⟩ := exists_runInvocation_eq_reportState hearsOther
  rw [otherPrinted] at same
  exact reportState_injective same

/-- A host that closes its quote, goes on as an object would and opens a line, next to the least and
the greatest count. -/
def hostileState : NodeState where
  host := "\",\n\\"
  blocks := Int64.minValue
  expectedHeight := 0
  cachedTransactions := 7
  unspentOutputs := Int64.maxValue

/-- The hostile state is read back as it is. -/
theorem state_is_read_back_of_hostileState :
    HearsState ⟨"config", some .state⟩ [] []
      (.reads (.answers (Response.success Codec.nodeState hostileState).encode)) hostileState ∧
    ∃ output sent, runInvocation ⟨"config", some .state⟩ [] []
        (.reads (.answers (Response.success Codec.nodeState hostileState).encode)) =
          .success output sent ∧
      (∃ lines, lines.length = 7 ∧ Lists output lines) ∧
      Json.read? output = some (.object [("host", .text "\",\n\\"),
        ("blocks_number", .integer (-9223372036854775808)),
        ("expecting_blocks_height", .integer 0), ("transactions_cached", .integer 7),
        ("unspent_outputs", .integer 9223372036854775807)]) := by
  have loaded : Configuration.load "config" [] [] = .ok {} := rfl
  have fits : Codec.nodeState.Fits hostileState := Codec.fits_of_length_write_lt _ (by decide)
  have hears : HearsState ⟨"config", some .state⟩ [] []
      (.reads (.answers (Response.success Codec.nodeState hostileState).encode)) hostileState :=
    hearsState_of_fits rfl loaded rfl fits
  obtain ⟨output, sent, printed, lines, read, -⟩ := state_is_read_back hears
  exact ⟨hears, output, sent, printed, lines, read⟩

end CommandLine

end SqlLedger
