/-
Reading does not change its mind when more input arrives.

A reader goes along its input from the front and says what it thinks of it as soon as it knows. So
it is steady (`Steady`): a value that it has taken is taken from any longer input as well, and a
complaint stays the same, except for the complaint that the input ends. Each reader of the wire is
one step behind another, possibly with a look at what the first has taken (`Reader.andThen`), and
that keeps readers steady. The steps in which the input can end are those that cut off a number of
octets, and these do nothing else (`cut`); in particular the length of a text is judged before its
octets are.

For lawful codecs this settles how a value is read that was cut off. What is left of its octets is
no value, or the whole would be read as that one; and it is refused for its end only, or the whole
would be refused as well (`exists_short_of_front`).
-/

import SqlLedger.Proofs.Result
import SqlLedger.Proofs.Wire.Laws

namespace SqlLedger

variable {α β : Type}

/-! ### Readers one behind the other -/

/-- A reader behind another one, which may depend on what the first has taken. -/
def Reader.andThen (first : Reader α) (next : α → Reader β) : Reader β := fun bytes =>
  match first bytes with
  | .error fault => .error fault
  | .ok (value, rest) => next value rest

/-- More input changes nothing for a reader that has taken its value, and nothing for one that
complains of anything but the end of its input. -/
class Steady (reader : Reader α) : Prop where
  append_of_ok : ∀ {bytes rest : Bytes} {value : α}, reader bytes = .ok (value, rest) →
    ∀ more, reader (bytes ++ more) = .ok (value, rest ++ more)
  append_of_error : ∀ {bytes : Bytes} {fault : ReadFault}, reader bytes = .error fault →
    fault.isShort = false → ∀ more, reader (bytes ++ more) = .error fault

namespace Steady

theorem done (value : α) : Steady fun rest => .ok (value, rest) where
  append_of_ok read more := by
    cases read
    rfl
  append_of_error refused := by
    cases refused

theorem refuse (fault : ReadFault) : Steady (fun _ => .error fault : Reader α) where
  append_of_ok read := by
    cases read
  append_of_error refused _ _ := refused

theorem andThen {first : Reader α} {next : α → Reader β} [Steady first]
    (steady : ∀ value, Steady (next value)) : Steady (first.andThen next) where
  append_of_ok {bytes rest value} read more := by
    unfold Reader.andThen at read ⊢
    cases readFirst : first bytes with
    | error fault =>
      rw [readFirst] at read
      cases read
    | ok result =>
      obtain ⟨left, middle⟩ := result
      rw [readFirst] at read
      rw [append_of_ok readFirst more]
      exact (steady left).append_of_ok read more
  append_of_error {bytes fault} refused whole more := by
    unfold Reader.andThen at refused ⊢
    cases readFirst : first bytes with
    | error earlier =>
      rw [readFirst] at refused
      cases refused
      rw [append_of_error readFirst whole more]
    | ok result =>
      obtain ⟨left, middle⟩ := result
      rw [readFirst] at refused
      rw [append_of_ok readFirst more]
      exact (steady left).append_of_error refused whole more

end Steady

namespace Codec

/-! ### Building blocks -/

/-- Cuts off a number of octets, or complains that there are too few. -/
def cut (fault : ReadFault) (count : Nat) : Reader Bytes := fun bytes =>
  if (bytes.take count).length < count then .error fault
  else .ok (bytes.take count, bytes.drop count)

theorem steady_cut {fault : ReadFault} (short : fault.isShort = true) (count : Nat) :
    Steady (cut fault count) where
  append_of_ok {bytes rest value} read more := by
    unfold Codec.cut at read ⊢
    split at read
    · cases read
    · rename_i enough
      cases read
      rw [List.length_take] at enough
      have inside : count ≤ bytes.length := by omega
      rw [List.take_append_of_le_length inside, List.drop_append_of_le_length inside,
        List.length_take, if_neg enough]
  append_of_error {bytes refusal} refused whole more := by
    unfold Codec.cut at refused
    split at refused
    · cases refused
      rw [short] at whole
      cases whole
    · cases refused

instance (count : Nat) : Steady (take count) :=
  steady_cut rfl count

theorem read_word (width : Nat) (toNat : α → Nat) (ofNat : Nat → α) :
    (word width toNat ofNat).read = (take width).andThen fun octets rest =>
      .ok (ofNat (Bytes.littleEndianValue octets), rest) := by
  funext bytes
  unfold word Reader.andThen
  dsimp only
  cases take width bytes <;> rfl

instance {width : Nat} {toNat : α → Nat} {ofNat : Nat → α} :
    Steady (word width toNat ofNat).read := by
  rw [read_word]
  exact .andThen fun octets => .done (ofNat (Bytes.littleEndianValue octets))

instance : Steady nothing.read :=
  .done ()

instance {first : Codec α} {second : Codec β} [Steady first.read] [Steady second.read] :
    Steady (pair first second).read := by
  show Steady (first.read.andThen fun left => second.read.andThen fun right rest =>
    .ok ((left, right), rest))
  exact .andThen fun left => .andThen fun right => .done (left, right)

instance {parts : α → β} {build : β → α} {codec : Codec β} [Steady codec.read] :
    Steady (along parts build codec).read := by
  show Steady (codec.read.andThen fun value rest => .ok (build value, rest))
  exact .andThen fun value => .done (build value)

/-! ### Scalars -/

instance : Steady octet.read :=
  inferInstanceAs (Steady (word 1 _ _).read)

instance : Steady word32.read :=
  inferInstanceAs (Steady (word 4 _ _).read)

instance : Steady word64.read :=
  inferInstanceAs (Steady (word 8 _ _).read)

instance : Steady signed64.read :=
  inferInstanceAs (Steady (along _ _ word64).read)

instance : Steady double.read :=
  inferInstanceAs (Steady (along _ _ word64).read)

theorem read_flag : flag.read = octet.read.andThen fun byte =>
    if byte = 0 then fun rest => .ok (false, rest)
    else if byte = 1 then fun rest => .ok (true, rest)
    else fun _ => .error (.badFlag byte) := by
  funext bytes
  cases bytes with
  | nil => rfl
  | cons byte rest =>
    have written : byte :: rest = octet.write byte ++ rest := by
      show _ = UInt8.ofNat byte.toNat :: rest
      rw [UInt8.ofNat_toNat]
    unfold Reader.andThen
    rw [Lawful.read_eq_ok_iff.mpr ⟨trivial, written⟩]
    dsimp only [flag]
    repeat' split
    all_goals rfl

instance : Steady flag.read := by
  rw [read_flag]
  refine .andThen fun byte => ?_
  repeat' split
  · exact .done false
  · exact .done true
  · exact .refuse (.badFlag byte)

/-! ### Lengths, octet strings, texts and lists -/

theorem readLength_eq : readLength = (take 8).andThen fun octets rest =>
    .ok (Bytes.littleEndianValue octets, rest) := by
  funext bytes
  unfold readLength Reader.andThen
  cases take 8 bytes <;> rfl

instance : Steady readLength := by
  rw [readLength_eq]
  exact .andThen fun octets => .done (Bytes.littleEndianValue octets)

theorem read_block : block.read = readLength.andThen (cut .shortBlock) := by
  funext bytes
  unfold block Reader.andThen
  dsimp only
  cases readLength bytes <;> rfl

instance : Steady block.read := by
  rw [read_block]
  exact .andThen (steady_cut rfl)

theorem read_text : text.read = block.read.andThen fun octets rest =>
    match Utf8.decode octets with
    | .error fault => .error (.badText fault)
    | .ok value => .ok (value, rest) := by
  funext bytes
  unfold text Reader.andThen
  dsimp only
  cases block.read bytes <;> rfl

instance : Steady text.read := by
  rw [read_text]
  refine .andThen fun octets => ?_
  cases Utf8.decode octets with
  | error fault => exact .refuse (.badText fault)
  | ok value => exact .done value

theorem readMany_succ (element : Reader α) (count : Nat) :
    readMany element (count + 1) = element.andThen fun first =>
      (readMany element count).andThen fun others rest => .ok (first :: others, rest) := by
  funext bytes
  unfold readMany Reader.andThen
  cases element bytes with
  | error fault => rfl
  | ok result =>
    dsimp only
    cases readMany element count result.2 <;> rfl

instance {element : Reader α} [Steady element] (count : Nat) :
    Steady (readMany element count) := by
  induction count with
  | zero => exact .done []
  | succ count inductionHypothesis =>
    rw [readMany_succ]
    exact .andThen fun first => .andThen fun others => .done (first :: others)

theorem read_list (element : Codec α) :
    (list element).read = readLength.andThen (readMany element.read) := by
  funext bytes
  unfold list Reader.andThen
  dsimp only
  cases readLength bytes <;> rfl

instance {element : Codec α} [Steady element.read] : Steady (list element).read := by
  rw [read_list]
  exact .andThen fun count => inferInstance

instance : Steady octets.read :=
  inferInstanceAs (Steady (list octet).read)

/-! ### Decoding -/

variable {codec : Codec α}

theorem decode_append_of_ok [Steady codec.read] {bytes : Bytes} {value : α}
    (decoded : codec.decode bytes = .ok value) (more : Bytes) :
    codec.decode (bytes ++ more) = .ok value := by
  obtain ⟨⟨found, rest⟩, read, rfl⟩ := Result.map_eq_ok_iff.mp decoded
  rw [decode, Steady.append_of_ok read more]
  rfl

theorem decode_eq_error_iff {bytes : Bytes} {fault : ReadFault} :
    codec.decode bytes = .error fault ↔ codec.read bytes = .error fault := by
  rw [decode]
  cases codec.read bytes with
  | ok result => exact ⟨nofun, nofun⟩
  | error earlier => exact ⟨fun | rfl => rfl, fun | rfl => rfl⟩

theorem decode_append_of_error [Steady codec.read] {bytes : Bytes} {fault : ReadFault}
    (refused : codec.decode bytes = .error fault) (whole : fault.isShort = false) (more : Bytes) :
    codec.decode (bytes ++ more) = .error fault := by
  rw [decode_eq_error_iff] at refused ⊢
  exact Steady.append_of_error refused whole more

/-- Octets of a value that were cut off are refused for their end. -/
theorem exists_short_of_front [Lawful codec] [Steady codec.read] {value : α}
    (fits : codec.Fits value) {front : Bytes} (isFront : front <+: codec.write value)
    (proper : front ≠ codec.write value) :
    ∃ fault, codec.decode front = .error fault ∧ fault.isShort = true := by
  have whole := (decode_eq_ok_iff_opens codec _ value).mpr (opens_write fits)
  obtain ⟨more, same⟩ := isFront
  rw [← same] at whole
  -- Any other outcome would also be that of the whole octets, which are read as the value.
  cases decoded : codec.decode front with
  | ok other =>
    have longer := decode_append_of_ok decoded more
    rw [whole] at longer
    cases longer
    have inside := ((decode_eq_ok_iff_opens codec front value).mp decoded).2
    have equal := inside.eq_of_length_le (same ▸ List.length_append ▸ Nat.le_add_right _ _)
    exact absurd equal.symm proper
  | error fault =>
    refine ⟨fault, rfl, ?_⟩
    cases short : fault.isShort with
    | true => rfl
    | false =>
      rw [decode_append_of_error decoded short more] at whole
      cases whole

end Codec

end SqlLedger
