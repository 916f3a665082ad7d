/-
The listing of unspent outputs says which outputs there are.

A line of the listing has parts with a mark between them: the transaction in hexadecimal digits, a
colon, the index, a blank, the amount, and for an output of a coinbase another blank and a word.
None of the parts holds a colon, a blank or a line feed, whatever the output is: the octets of a
transaction are shown as letters and digits, the index and the amount as letters, digits, hyphens
and points. So a line is cut where it was put together, and an index is read back from its decimal
text.

The line of the last block stands behind the outputs and opens with words that no output opens with,
since the second letter of these words is no hexadecimal digit. A reader of the whole listing
(`readUnspent?`) therefore finds each output and the last block again. The amounts are there as
well, and are passed over.
-/

import SqlLedger.Proofs.Client.Answer
import SqlLedger.Proofs.CommandLine.Listing
import SqlLedger.Proofs.Text.Hexadecimal

namespace SqlLedger.CommandLine

/-! ### Reading the listing -/

/-- What a line tells of an output, apart from its amount. -/
structure ListedOutput where
  transaction : Bytes
  index : Int64
  isCoinbase : Bool
  deriving DecidableEq, Repr

/-- An output as its line tells it. -/
def listed (output : UnspentOutput) : ListedOutput :=
  ⟨output.transaction, output.index, output.isCoinbase⟩

/-- Reads what stands behind the amount. -/
def readMark? : List (List Char) → Option Bool
  | [] => some false
  | [mark] => if mark = "(coinbase)".toList then some true else none
  | _ => none

/-- Reads the line of an output. -/
def readOutput? (shown : String) : Option ListedOutput :=
  match shown.toList.splitOn ' ' with
  | place :: _ :: mark =>
    match place.splitOn ':' with
    | [digits, index] =>
      match Bytes.ofHex? digits, Text.readSigned64 (String.ofList index), readMark? mark with
      | some transaction, .ok index, some isCoinbase => some ⟨transaction, index, isCoinbase⟩
      | _, _, _ => none
    | _ => none
  | _ => none

/-- The words in front of the last block. -/
def tipOpening : List Char := "chain tip: ".toList

/-- Reads the line of the last block. -/
def readTip? (shown : String) : Option Bytes :=
  if tipOpening.isPrefixOf shown.toList then Bytes.ofHex? (shown.toList.drop tipOpening.length)
  else none

/-- Reads a listing: the line of the last block is the last one, the others are outputs. -/
def readUnspent? (text : String) : Option (List ListedOutput × Bytes) := do
  let lines := Text.linesOf text
  let outputs ← lines.dropLast.mapM readOutput?
  let lastBlock ← readTip? (← lines.getLast?)
  return (outputs, lastBlock)

/-! ### The line of an output -/

/-- What stands behind the amount of an output. -/
def coinbaseMark (isCoinbase : Bool) : List Char :=
  if isCoinbase then ' ' :: "(coinbase)".toList else []

theorem toList_unspentLine (output : UnspentOutput) :
    (unspentLine output).toList =
      (output.transaction.toHex.toList ++ ':' :: (toString output.index.toInt).toList) ++
        ' ' :: ((DecimalLayout.plain.text output.amount).toList ++
          coinbaseMark output.isCoinbase) := by
  have mark : (if output.isCoinbase then " (coinbase)" else "").toList =
      coinbaseMark output.isCoinbase := by
    cases output.isCoinbase <;> rfl
  rw [unspentLine, String.toList_append, String.toList_append, mark]
  simp only [String.toList_append, List.append_assoc, List.cons_append]
  rfl

/-- An output ends its line where the line ends. -/
theorem lineFeed_notMem_unspentLine (output : UnspentOutput) :
    '\n' ∉ (unspentLine output).toList := by
  have id : '\n' ∉ output.transaction.toHex.toList := Bytes.notMem_toHex (by decide) _
  have index : '\n' ∉ (toString output.index.toInt).toList :=
    DecimalLayout.notMem_toString (by decide) _
  have amount : '\n' ∉ (DecimalLayout.plain.text output.amount).toList :=
    DecimalLayout.notMem_plain (by decide) _
  have mark : '\n' ∉ coinbaseMark output.isCoinbase := by
    cases output.isCoinbase <;> decide
  simp only [toList_unspentLine, List.mem_append, List.mem_cons, id, index, amount, mark]
  decide

/-- The line of an output is cut at the blanks that it was put together with. -/
theorem splitOn_unspentLine (output : UnspentOutput) :
    (unspentLine output).toList.splitOn ' ' =
      (output.transaction.toHex.toList ++ ':' :: (toString output.index.toInt).toList) ::
        (DecimalLayout.plain.text output.amount).toList ::
          if output.isCoinbase then ["(coinbase)".toList] else [] := by
  have id : ' ' ∉ output.transaction.toHex.toList := Bytes.notMem_toHex (by decide) _
  have index : ' ' ∉ (toString output.index.toInt).toList :=
    DecimalLayout.notMem_toString (by decide) _
  have amount : ' ' ∉ (DecimalLayout.plain.text output.amount).toList :=
    DecimalLayout.notMem_plain (by decide) _
  have place : ' ' ∉
      output.transaction.toHex.toList ++ ':' :: (toString output.index.toInt).toList := by
    simp only [List.mem_append, List.mem_cons, id, index]
    decide
  rw [toList_unspentLine, List.splitOn_append_cons_self_of_not_mem place]
  cases output.isCoinbase with
  | false =>
    rw [coinbaseMark, if_neg Bool.false_ne_true, List.append_nil, List.splitOn_eq_singleton amount]
    rfl
  | true =>
    rw [coinbaseMark, if_pos rfl, List.splitOn_append_cons_self_of_not_mem amount]
    rfl

/-- An output is read back from its line. -/
theorem readOutput?_unspentLine (output : UnspentOutput) :
    readOutput? (unspentLine output) = some (listed output) := by
  have id : ':' ∉ output.transaction.toHex.toList := Bytes.notMem_toHex (by decide) _
  have index : ':' ∉ (toString output.index.toInt).toList :=
    DecimalLayout.notMem_toString (by decide) _
  have parts : (output.transaction.toHex.toList ++
      ':' :: (toString output.index.toInt).toList).splitOn ':' =
        [output.transaction.toHex.toList, (toString output.index.toInt).toList] := by
    rw [List.splitOn_append_cons_self_of_not_mem id, List.splitOn_eq_singleton index]
  have flag : readMark? (if output.isCoinbase then ["(coinbase)".toList] else []) =
      some output.isCoinbase := by
    cases output.isCoinbase <;> rfl
  simp only [readOutput?, splitOn_unspentLine, parts, Bytes.ofHex?_toHex, String.ofList_toList,
    Text.readSigned64_toString, flag, listed]

/-! ### The line of the last block -/

/-- The line of the last block. -/
def tipLine (lastBlock : Bytes) : String :=
  s!"chain tip: {lastBlock.toHex}"

theorem toList_tipLine (lastBlock : Bytes) :
    (tipLine lastBlock).toList = tipOpening ++ lastBlock.toHex.toList := by
  rw [tipLine, String.toList_append]
  rfl

theorem lineFeed_notMem_tipLine (lastBlock : Bytes) : '\n' ∉ (tipLine lastBlock).toList := by
  have digits : '\n' ∉ lastBlock.toHex.toList := Bytes.notMem_toHex (by decide) _
  have opening : '\n' ∉ tipOpening := by decide
  rw [toList_tipLine, List.mem_append]
  exact not_or.mpr ⟨opening, digits⟩

theorem readTip?_tipLine (lastBlock : Bytes) : readTip? (tipLine lastBlock) = some lastBlock := by
  have opens : tipOpening.isPrefixOf (tipOpening ++ lastBlock.toHex.toList) = true :=
    List.isPrefixOf_iff_prefix.mpr (List.prefix_append _ _)
  rw [readTip?, toList_tipLine, if_pos opens, List.drop_left, Bytes.ofHex?_toHex]

/-- No output opens as the line of the last block does: a transaction with a first octet has two
hexadecimal digits in front, and one without has a colon. -/
theorem not_tipOpening_prefix_unspentLine (output : UnspentOutput) :
    ¬ tipOpening <+: (unspentLine output).toList := by
  obtain ⟨transaction, index, amount, isCoinbase, origin⟩ := output
  have letters : tipOpening = 'c' :: 'h' :: "ain tip: ".toList := by decide
  have digit : ∀ value < 16, 'h' ≠ Bytes.hexDigit value := by decide
  rintro ⟨rest, same⟩
  rw [toList_unspentLine, Bytes.toHex, String.toList_ofList, letters] at same
  cases transaction with
  | nil =>
    obtain ⟨first, -⟩ := List.cons.inj same
    exact absurd first (by decide)
  | cons byte bytes =>
    rw [List.flatMap_cons] at same
    obtain ⟨-, behind⟩ := List.cons.inj same
    exact digit _ (Nat.mod_lt _ (by decide)) (List.cons.inj behind).1

/-! ### The whole listing -/

/-- The lines of a listing. -/
def unspentLines (unspent : UnspentOutputs) : List String :=
  unspent.outputs.map unspentLine ++ [tipLine unspent.lastBlock]

theorem reportUnspent_eq_join (unspent : UnspentOutputs) :
    reportUnspent unspent = String.join ((unspentLines unspent).map (· ++ "\n")) := by
  have last : String.join ([tipLine unspent.lastBlock].map (· ++ "\n")) =
      line (tipLine unspent.lastBlock) := by
    rw [List.map_singleton, String.join_cons, String.join_nil, String.append_empty, line]
  rw [reportUnspent, ← tipLine, unspentLines, List.map_append, String.join_append, last,
    List.map_map]
  rfl

/-- The listing consists of the lines of the outputs and of the line of the last block. -/
theorem lists_reportUnspent (unspent : UnspentOutputs) :
    Lists (reportUnspent unspent) (unspentLines unspent) := by
  rw [reportUnspent_eq_join]
  refine (Text.forall_join_consistsOf_iff _).mpr ?_
  rw [unspentLines, List.forall_mem_append, List.forall_mem_map, List.forall_mem_singleton]
  exact ⟨fun output _ => lineFeed_notMem_unspentLine output,
    lineFeed_notMem_tipLine unspent.lastBlock⟩

/-- The outputs and the last block are read back from the listing. -/
theorem readUnspent?_reportUnspent (unspent : UnspentOutputs) :
    readUnspent? (reportUnspent unspent) =
      some (unspent.outputs.map listed, unspent.lastBlock) := by
  have found : Text.linesOf (reportUnspent unspent) = unspentLines unspent :=
    ((lists_reportUnspent unspent _).mpr rfl).linesOf_eq
  have outputs : (unspent.outputs.map unspentLine).mapM readOutput? =
      some (unspent.outputs.map listed) := by
    have each : readOutput? ∘ unspentLine = fun output => pure (listed output) :=
      funext readOutput?_unspentLine
    rw [List.mapM_map, each, List.mapM_pure]
    rfl
  rw [readUnspent?, found, unspentLines, List.dropLast_concat, List.getLast?_concat, outputs]
  simp only [bind, pure, Option.bind, readTip?_tipLine]

/-! ### Runs that ask for unspent outputs -/

/-- A run asks for the unspent outputs of a wallet, and this is the answer. -/
def HearsUnspent [Build] (invocation : Invocation) (files : List Configuration.File)
    (environment : Configuration.Environment) (peer : Peer) (unspent : UnspentOutputs) : Prop :=
  ∃ wallet, invocation.subcommand = some (.unspent wallet) ∧
    ∃ settings, Configuration.load invocation.config files environment = .ok settings ∧
      ((Client.mk settings).perform (.unspent wallet []) settings.home peer).result = .ok unspent

variable {invocation : Invocation} {files : List Configuration.File}
  {environment : Configuration.Environment} {peer : Peer} {unspent : UnspentOutputs}

/-- All outputs that can be written are the answer of some peer. -/
theorem hearsUnspent_of_fits [Build] {settings : Settings} {wallet : String}
    (given : invocation.subcommand = some (.unspent wallet))
    (loaded : Configuration.load invocation.config files environment = .ok settings)
    (valid : settings.home.validate = .ok ()) (fits : Codec.unspentOutputs.Fits unspent) :
    HearsUnspent invocation files environment
      (.reads (.answers (Response.success Codec.unspentOutputs unspent).encode)) unspent :=
  ⟨wallet, given, settings, loaded,
    Client.result_perform_success ⟨settings⟩ (.unspent wallet []) settings.home rfl valid fits⟩

theorem exists_runInvocation_eq_reportUnspent [Build]
    (hears : HearsUnspent invocation files environment peer unspent) :
    ∃ sent, runInvocation invocation files environment peer =
      .success (reportUnspent unspent) sent := by
  obtain ⟨wallet, given, settings, loaded, answered⟩ := hears
  have planned : (Subcommand.unspent wallet).plan settings.home =
      .ok ⟨.unspent wallet [], reportUnspent⟩ := rfl
  exact exists_runInvocation_eq_success loaded given planned answered

/-- The listing of unspent outputs loses no output and confuses none. A run that asks for them and
is answered prints one line for each output, in their order, and behind them one line for the last
block, the only one that opens as that line does. A reader of what is printed finds the transaction,
the index and the coinbase flag of every output, and the last block. So no other answer is printed
like that, unless it agrees in all of these. -/
theorem unspent_is_read_back [Build]
    (hears : HearsUnspent invocation files environment peer unspent) :
    ∃ output sent, runInvocation invocation files environment peer = .success output sent ∧
      Lists output (unspent.outputs.map unspentLine ++ [tipLine unspent.lastBlock]) ∧
      (∀ shown ∈ unspent.outputs.map unspentLine, ¬ "chain tip: ".toList <+: shown.toList) ∧
      readUnspent? output = some (unspent.outputs.map listed, unspent.lastBlock) ∧
      ∀ otherInvocation otherFiles otherEnvironment otherPeer other,
        HearsUnspent otherInvocation otherFiles otherEnvironment otherPeer other →
        (runInvocation otherInvocation otherFiles otherEnvironment otherPeer).output = output →
          other.outputs.map listed = unspent.outputs.map listed ∧
            other.lastBlock = unspent.lastBlock := by
  obtain ⟨sent, printed⟩ := exists_runInvocation_eq_reportUnspent hears
  refine ⟨_, sent, printed, lists_reportUnspent unspent, ?_, readUnspent?_reportUnspent unspent, ?_⟩
  · rw [List.forall_mem_map]
    exact fun output _ => not_tipOpening_prefix_unspentLine output
  · intro otherInvocation otherFiles otherEnvironment otherPeer other hearsOther same
    obtain ⟨otherSent, otherPrinted⟩ := exists_runInvocation_eq_reportUnspent hearsOther
    rw [otherPrinted] at same
    have read := readUnspent?_reportUnspent other
    rw [show reportUnspent other = reportUnspent unspent from same,
      readUnspent?_reportUnspent] at read
    obtain ⟨outputs, lastBlock⟩ := Prod.mk.inj (Option.some.inj read)
    exact ⟨outputs.symm, lastBlock.symm⟩

/-- A coinbase output without a transaction, with the least index and an amount that is no number,
and an output whose transaction opens with the digits of the first letter of the last line. -/
def strangeOutputs : UnspentOutputs where
  outputs := [⟨[], Int64.minValue, ⟨0x7ff8000000000000⟩, true, "a\nb"⟩,
    ⟨[0xc0, 0], 7, ⟨0⟩, false, ""⟩]
  lastBlock := []

/-- The strange outputs are listed on three lines and read back as they are. -/
theorem unspent_is_read_back_of_strangeOutputs :
    HearsUnspent ⟨"config", some (.unspent "w")⟩ [] []
      (.reads (.answers (Response.success Codec.unspentOutputs strangeOutputs).encode))
      strangeOutputs ∧
    ∃ output sent, runInvocation ⟨"config", some (.unspent "w")⟩ [] []
        (.reads (.answers (Response.success Codec.unspentOutputs strangeOutputs).encode)) =
          .success output sent ∧
      Lists output [":-9223372036854775808 NaN (coinbase)", "c000:7 0", "chain tip: "] ∧
      readUnspent? output =
        some ([⟨[], Int64.minValue, true⟩, ⟨[0xc0, 0], 7, false⟩], []) := by
  have loaded : Configuration.load "config" [] [] = .ok {} := rfl
  have fits : Codec.unspentOutputs.Fits strangeOutputs :=
    Codec.fits_of_length_write_lt _ (by decide)
  have hears : HearsUnspent ⟨"config", some (.unspent "w")⟩ [] []
      (.reads (.answers (Response.success Codec.unspentOutputs strangeOutputs).encode))
      strangeOutputs :=
    hearsUnspent_of_fits rfl loaded rfl fits
  obtain ⟨output, sent, printed, lists, -, read, -⟩ := unspent_is_read_back hears
  have shown : strangeOutputs.outputs.map unspentLine ++ [tipLine strangeOutputs.lastBlock] =
      [":-9223372036854775808 NaN (coinbase)", "c000:7 0", "chain tip: "] := by
    decide
  rw [shown] at lists
  exact ⟨hears, output, sent, printed, lists, read⟩

end SqlLedger.CommandLine
