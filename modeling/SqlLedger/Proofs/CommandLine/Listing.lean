/-
Listings of what a node answered.

Known nodes and the transactions of a wallet are printed one to a line, and the texts in them are
printed as the node sent them. A reader of the output takes every line feed for the end of a line.
So the output is the listing of the entries exactly if no text in them holds a line feed
(`lists_entries_iff`); all else that stands in a line, ids, directions, amounts, ports and what
separates them, never ends it. A host with a line feed is enough to put an entry into the listing
that the answer does not have (`forged_entry_is_listed`).
-/

import SqlLedger.Proofs.CommandLine.Run
import SqlLedger.Proofs.Number.Decimal
import SqlLedger.Proofs.Text.Line

namespace SqlLedger

/-! ### What never ends a line -/

theorem Bytes.isAlphanum_of_mem_toHex (bytes : Bytes) :
    ∀ char ∈ bytes.toHex.toList, char.isAlphanum = true := by
  have digits : ∀ value < 16, (hexDigit value).isAlphanum = true := by decide
  intro char member
  rw [toHex, String.toList_ofList] at member
  obtain ⟨byte, -, digit⟩ := List.mem_flatMap.mp member
  have small := byte.toNat_lt
  simp only [List.mem_cons, List.not_mem_nil, or_false] at digit
  rcases digit with rfl | rfl
  · exact digits _ (Nat.div_lt_of_lt_mul small)
  · exact digits _ (Nat.mod_lt _ (by decide))

section Marks

variable {mark : Char} (foreign : ¬ DecimalLayout.IsNumeric mark)

include foreign

theorem Bytes.notMem_toHex (bytes : Bytes) : mark ∉ bytes.toHex.toList :=
  DecimalLayout.notMem_of_isNumeric foreign fun char member =>
    Or.inl (bytes.isAlphanum_of_mem_toHex char member)

theorem DecimalLayout.notMem_toString (value : Int) : mark ∉ (toString value).toList :=
  notMem_of_isNumeric foreign (isNumeric_of_mem_toString value)

theorem DecimalLayout.notMem_plain (amount : Double) : mark ∉ (plain.text amount).toList :=
  notMem_of_isNumeric foreign (isNumeric_of_mem_plain amount)

end Marks

/-! ### Lines of the listings -/

/-- The address of a node ends its line early exactly if the host does. -/
theorem NodeAddress.lineFeed_mem_display_iff (address : NodeAddress) :
    '\n' ∈ address.display.toList ↔ '\n' ∈ address.host.toList := by
  have port : '\n' ∉ (toString address.port.toNat).toList := by
    rw [Nat.toString_eq_repr, Nat.toList_repr]
    exact DecimalLayout.notMem_of_isNumeric (by decide) fun _ =>
      DecimalLayout.isNumeric_of_mem_toDigits
  have colon : '\n' ∉ (toString ":").toList := by decide
  simp only [display, String.toList_append, List.mem_append, port, colon, or_false]
  rfl

namespace CommandLine

/-- A transaction ends its line early exactly if the name of its payer or of its payee does. -/
theorem lineFeed_mem_historyLine_iff (entry : HistoryEntry) :
    '\n' ∈ (historyLine entry).toList ↔
      '\n' ∈ entry.payer.toList ∨ '\n' ∈ entry.payee.toList := by
  have id : '\n' ∉ (toString entry.transaction.toHex).toList :=
    Bytes.notMem_toHex (by decide) entry.transaction
  have amount : '\n' ∉ (toString (DecimalLayout.plain.text entry.amount)).toList :=
    DecimalLayout.notMem_plain (by decide) entry.amount
  have way : '\n' ∉ (toString (direction entry.outgoing)).toList := by
    cases entry.outgoing <;> decide
  have gap : '\n' ∉ (toString " ").toList := by decide
  have arrow : '\n' ∉ (toString " -> ").toList := by decide
  simp only [historyLine, String.toList_append, List.mem_append, id, amount, way, gap, arrow,
    or_false, false_or]
  rfl

/-- A text lists lines: they are what a reader finds in it, and nothing else is. -/
def Lists (text : String) (lines : List String) : Prop :=
  ∀ others, Text.ConsistsOf text others ↔ others = lines

/-- Entries that are printed one to a line are listed, and their number is that of the lines,
exactly if no entry holds a line feed as it is printed. -/
theorem lists_iff_and_lineCount_eq_iff {α : Type} {render : α → String} {isClean : α → Prop}
    (clean : ∀ entry, '\n' ∉ (render entry).toList ↔ isClean entry) (entries : List α) :
    let text := String.join (entries.map fun entry => line (render entry))
    (Lists text (entries.map render) ↔ ∀ entry ∈ entries, isClean entry) ∧
      (Text.lineCount text = entries.length ↔ ∀ entry ∈ entries, isClean entry) := by
  intro text
  have written : text = String.join ((entries.map render).map (· ++ "\n")) := by
    rw [List.map_map]
    rfl
  have holds : (∀ shown ∈ entries.map render, '\n' ∉ shown.toList) ↔
      ∀ entry ∈ entries, isClean entry := by
    rw [List.forall_mem_map]
    exact forall₂_congr fun entry _ => clean entry
  rw [written, ← holds]
  refine ⟨Text.forall_join_consistsOf_iff _, ?_⟩
  have counted := Text.lineCount_join_eq_length_iff (entries.map render)
  rwa [List.length_map] at counted

/-! ### Runs that list -/

variable {invocation : Invocation} {files : List Configuration.File}
  {environment : Configuration.Environment} {peer : Peer}

/-- A run that asks for the known nodes or for the transactions of a wallet, and is answered with
entries, prints each entry on a line of its own, in their order, exactly if no text that the node
put into them holds a line feed: the host of a node, the payer and the payee of a transaction. The
number of lines is that of the entries exactly if that is so. -/
theorem lists_entries_iff [Build] {settings : Settings}
    (loaded : Configuration.load invocation.config files environment = .ok settings) :
    (∀ nodes, invocation.subcommand = some .nodes →
      ((Client.mk settings).perform .nodes settings.home peer).result = .ok nodes →
      ∃ output sent, runInvocation invocation files environment peer = .success output sent ∧
        (Lists output (nodes.map NodeAddress.display) ↔
          ∀ node ∈ nodes, '\n' ∉ node.host.toList) ∧
        (Text.lineCount output = nodes.length ↔ ∀ node ∈ nodes, '\n' ∉ node.host.toList)) ∧
    ∀ wallet entries, invocation.subcommand = some (.history wallet) →
      ((Client.mk settings).perform (.history wallet) settings.home peer).result = .ok entries →
      ∃ output sent, runInvocation invocation files environment peer = .success output sent ∧
        (Lists output (entries.map historyLine) ↔
          ∀ entry ∈ entries, '\n' ∉ entry.payer.toList ∧ '\n' ∉ entry.payee.toList) ∧
        (Text.lineCount output = entries.length ↔
          ∀ entry ∈ entries, '\n' ∉ entry.payer.toList ∧ '\n' ∉ entry.payee.toList) := by
  constructor
  · intro nodes given answered
    have planned : Subcommand.nodes.plan settings.home = .ok ⟨.nodes, reportNodes⟩ := rfl
    obtain ⟨sent, printed⟩ := exists_runInvocation_eq_success loaded given planned answered
    exact ⟨_, sent, printed, lists_iff_and_lineCount_eq_iff
      (fun node => not_congr node.lineFeed_mem_display_iff) nodes⟩
  · intro wallet entries given answered
    have planned : (Subcommand.history wallet).plan settings.home =
        .ok ⟨.history wallet, reportHistory⟩ := rfl
    obtain ⟨sent, printed⟩ := exists_runInvocation_eq_success loaded given planned answered
    refine ⟨_, sent, printed, lists_iff_and_lineCount_eq_iff (fun entry => ?_) entries⟩
    rw [lineFeed_mem_historyLine_iff, not_or]

/-- Two known nodes are listed on two lines. A transaction whose payee is a text of two lines is
not listed. -/
theorem lists_entries_iff_of_nodes_and_history :
    (∃ output sent, runInvocation ⟨"config", some .nodes⟩ [] [] (.reads (.answers
        (Response.success (.list NodeAddress.codec) [⟨"a", 1025⟩, ⟨"b", 8766⟩]).encode)) =
        .success output sent ∧
      Lists output ["a:1025", "b:8766"] ∧ Text.lineCount output = 2) ∧
    ∃ output sent, runInvocation ⟨"config", some (.history "w")⟩ [] [] (.reads (.answers
        (Response.success (.list .historyEntry) [⟨true, [], ⟨0⟩, "p", "q\nr"⟩]).encode)) =
        .success output sent ∧
      ¬ Lists output [historyLine ⟨true, [], ⟨0⟩, "p", "q\nr"⟩] ∧ Text.lineCount output ≠ 1 := by
  have defaults : Configuration.load "config" [] [] = .ok {} := rfl
  have loaded (subcommand : Subcommand) :
      Configuration.load (Invocation.mk "config" (some subcommand)).config [] [] = .ok {} :=
    defaults
  constructor
  · have answered : ((Client.mk {}).perform .nodes ⟨"localhost", 8766⟩ (.reads (.answers
        (Response.success (.list NodeAddress.codec) [⟨"a", 1025⟩, ⟨"b", 8766⟩]).encode))).result =
        .ok [⟨"a", 1025⟩, ⟨"b", 8766⟩] := by cbv
    have clean : ∀ node ∈ [NodeAddress.mk "a" 1025, ⟨"b", 8766⟩], '\n' ∉ node.host.toList := by
      decide
    obtain ⟨output, sent, printed, listed, counted⟩ :=
      (lists_entries_iff (loaded .nodes)).1 _ rfl answered
    exact ⟨output, sent, printed, listed.mpr clean, counted.mpr clean⟩
  · have answered : ((Client.mk {}).perform (.history "w") ⟨"localhost", 8766⟩ (.reads (.answers
        (Response.success (.list .historyEntry) [⟨true, [], ⟨0⟩, "p", "q\nr"⟩]).encode))).result =
        .ok [⟨true, [], ⟨0⟩, "p", "q\nr"⟩] := by cbv
    have unclean : ¬ ∀ entry ∈ [HistoryEntry.mk true [] ⟨0⟩ "p" "q\nr"],
        '\n' ∉ entry.payer.toList ∧ '\n' ∉ entry.payee.toList := by
      decide
    obtain ⟨output, sent, printed, listed, counted⟩ :=
      (lists_entries_iff (loaded (.history "w"))).2 _ _ rfl answered
    exact ⟨output, sent, printed, fun lists => unclean (listed.mp lists),
      fun count => unclean (counted.mp count)⟩

/-- One known node is listed as two, if its host is a text of two lines: the whole run prints what
it prints for the two, and not the one line of the node. -/
theorem forged_entry_is_listed :
    ∃ outcome, run ["nodes"] [] [] (.reads (.answers
        [1, 1, 0, 0, 0, 0, 0, 0, 0, 8, 0, 0, 0, 0, 0, 0, 0, 97, 58, 49, 48, 50, 53, 10, 98,
          62, 34, 0, 0])) = .ok outcome ∧
      ((Client.mk {}).perform .nodes ⟨"localhost", 8766⟩ (.reads (.answers
        [1, 1, 0, 0, 0, 0, 0, 0, 0, 8, 0, 0, 0, 0, 0, 0, 0, 97, 58, 49, 48, 50, 53, 10, 98,
          62, 34, 0, 0]))).result = .ok [⟨"a:1025\nb", 8766⟩] ∧
      outcome.status = 0 ∧ outcome.output = "a:1025\nb:8766\n" ∧
      Lists outcome.output ["a:1025", "b:8766"] ∧
      ¬ Lists outcome.output [(NodeAddress.mk "a:1025\nb" 8766).display] ∧
      Text.lineCount outcome.output ≠ 1 := by
  have lists : Lists "a:1025\nb:8766\n" ["a:1025", "b:8766"] :=
    (Text.forall_join_consistsOf_iff ["a:1025", "b:8766"]).mpr (by decide)
  -- The listing has one list of lines only, and it is not the one line of the node.
  refine ⟨⟨0, "a:1025\nb:8766\n", "", some [103, 101, 116, 110, 111, 100, 101, 115, 0, 0, 0, 0,
    0, 0, 0, 0, 0, 0, 0, 0]⟩, by cbv, by cbv, rfl, rfl, lists, fun forged => ?_, by decide⟩
  have same := (forged _).mp ((lists _).mpr rfl)
  exact absurd (congrArg List.length same) (by decide)

end CommandLine

end SqlLedger
