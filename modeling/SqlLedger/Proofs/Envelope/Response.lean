/-
What the octets of an answer mean.

`Response.Meaning` says it case by case: no octets are no answer, a success carries a value or
cannot be read, a failure carries its reason or cannot be read. What a body carries is a parameter,
since it depends on the call; nothing else does. The relation covers every byte string, and when a
body carries one value at most, the meaning is a function of the octets, which is put as one
equivalence for each outcome (`Response.Decides`).

A call reads its answer in stages, first the status, then the value, then what the caller wants of
the value. Each stage goes on with what the stage before accepted, so the stages compose
(`Meaning.bind`) as long as a stage that gives up blames the answer for it.
-/

import SqlLedger.Envelope.Response
import SqlLedger.Proofs.Text.Utf8

namespace SqlLedger.Response

variable {α β : Type}

/-! ### The meaning of octets -/

/-- What octets mean to a call for which a success can carry values. -/
inductive Meaning (carries : Bytes → α → Prop) : Bytes → Except NetworkError α → Prop
  | noAnswer : Meaning carries [] (.error .noResponse)
  | success {body : Bytes} {value : α} (carried : carries body value) :
    Meaning carries (1 :: body) (.ok value)
  | failure {status : UInt8} (reason : String) (failed : status ≠ 1) :
    Meaning carries (status :: Utf8.encode reason) (.error (.remote reason))
  | unreadableValue {body : Bytes} (detail : String) (nothing : ∀ value, ¬ carries body value) :
    Meaning carries (1 :: body) (.error (.cannotParseResponse detail))
  | unreadableReason {status : UInt8} {body : Bytes} (detail : String) (failed : status ≠ 1)
    (noText : ∀ reason, body ≠ Utf8.encode reason) :
    Meaning carries (status :: body) (.error (.cannotParseResponse detail))

/-- How the octets of an answer decide the result of a call: one exact condition for each
outcome, together with what the two kinds of answers that nodes write come to. -/
structure Decides (carries : Bytes → α → Prop) (result : Bytes → Except NetworkError α) :
    Prop where
  noResponse_iff : ∀ octets, result octets = .error .noResponse ↔ octets = []
  ok_iff : ∀ octets value, result octets = .ok value ↔
    ∃ body, octets = 1 :: body ∧ carries body value
  remote_iff : ∀ octets reason, result octets = .error (.remote reason) ↔
    ∃ status, status ≠ 1 ∧ octets = status :: Utf8.encode reason
  cannotParse_iff : ∀ octets, (∃ detail, result octets = .error (.cannotParseResponse detail)) ↔
    octets ≠ [] ∧ (¬ ∃ body value, octets = 1 :: body ∧ carries body value) ∧
      ¬ ∃ status reason, status ≠ 1 ∧ octets = status :: Utf8.encode reason
  transport_iff : ∀ octets,
    (∃ error, result octets = .error error ∧ error.isTransport = true) ↔ octets = []
  success : ∀ body value, carries body value →
    result (encode ⟨successStatus, body⟩) = .ok value
  failure : ∀ reason, result (failure reason).encode = .error (.remote reason)

/-! ### From the octets to the outcome -/

namespace Meaning

variable {carries : Bytes → α → Prop} {octets : Bytes} {result : Except NetworkError α}

theorem eq_noResponse (meaning : Meaning carries [] result) : result = .error .noResponse := by
  cases meaning
  rfl

theorem eq_ok (unique : ∀ body first second, carries body first → carries body second →
    first = second) {body : Bytes} {value : α} (carried : carries body value)
    (meaning : Meaning carries (1 :: body) result) : result = .ok value := by
  cases meaning with
  | success other => rw [unique body _ value other carried]
  | failure reason failed => exact absurd rfl failed
  | unreadableValue detail nothing => exact absurd carried (nothing value)
  | unreadableReason detail failed noText => exact absurd rfl failed

theorem eq_remote {status : UInt8} {reason : String} (failed : status ≠ 1)
    (same : octets = status :: Utf8.encode reason) (meaning : Meaning carries octets result) :
    result = .error (.remote reason) := by
  cases meaning with
  | noAnswer => cases same
  | success carried => exact absurd (List.cons.inj same).1.symm failed
  | failure other otherFailed => rw [Utf8.encode_injective (List.cons.inj same).2]
  | unreadableValue detail nothing => exact absurd (List.cons.inj same).1.symm failed
  | unreadableReason detail otherFailed noText =>
    exact absurd (List.cons.inj same).2 (noText reason)

/-- Octets that are neither missing nor a success nor a failure in words cannot be read. -/
theorem exists_eq_cannotParse (present : octets ≠ [])
    (noValue : ¬ ∃ body value, octets = 1 :: body ∧ carries body value)
    (noReason : ¬ ∃ status reason, status ≠ 1 ∧ octets = status :: Utf8.encode reason)
    (meaning : Meaning carries octets result) :
    ∃ detail, result = .error (.cannotParseResponse detail) := by
  cases meaning with
  | noAnswer => exact absurd rfl present
  | success carried => exact absurd ⟨_, _, rfl, carried⟩ noValue
  | failure reason failed => exact absurd ⟨_, reason, failed, rfl⟩ noReason
  | unreadableValue detail _ => exact ⟨detail, rfl⟩
  | unreadableReason detail _ _ => exact ⟨detail, rfl⟩

/-! ### From the outcome to the octets -/

theorem eq_nil_of_isTransport {error : NetworkError} (transport : error.isTransport = true)
    (meaning : Meaning carries octets (.error error)) : octets = [] := by
  cases meaning with
  | noAnswer => rfl
  | failure => cases transport
  | unreadableValue => cases transport
  | unreadableReason => cases transport

theorem exists_body {value : α} (meaning : Meaning carries octets (.ok value)) :
    ∃ body, octets = 1 :: body ∧ carries body value := by
  cases meaning with
  | success carried => exact ⟨_, rfl, carried⟩

theorem exists_status {reason : String}
    (meaning : Meaning carries octets (.error (.remote reason))) :
    ∃ status, status ≠ 1 ∧ octets = status :: Utf8.encode reason := by
  cases meaning with
  | failure _ failed => exact ⟨_, failed, rfl⟩

/-- Octets that cannot be read are neither missing nor a success nor a failure in words. -/
theorem unreadable {detail : String}
    (meaning : Meaning carries octets (.error (.cannotParseResponse detail))) :
    octets ≠ [] ∧ (¬ ∃ body value, octets = 1 :: body ∧ carries body value) ∧
      ¬ ∃ status reason, status ≠ 1 ∧ octets = status :: Utf8.encode reason := by
  cases meaning with
  | unreadableValue _ nothing =>
    refine ⟨List.cons_ne_nil _ _, ?_, ?_⟩
    · rintro ⟨body, value, same, carried⟩
      rw [(List.cons.inj same).2] at nothing
      exact nothing value carried
    · rintro ⟨status, reason, failed, same⟩
      exact failed (List.cons.inj same).1.symm
  | unreadableReason _ failed noText =>
    refine ⟨List.cons_ne_nil _ _, ?_, ?_⟩
    · rintro ⟨body, value, same, -⟩
      exact failed (List.cons.inj same).1
    · rintro ⟨status, reason, -, same⟩
      exact noText reason (List.cons.inj same).2

end Meaning

/-- A result that is what the octets mean is decided by the octets, if a body carries one value
at most. -/
theorem Decides.of_meaning {carries : Bytes → α → Prop} {result : Bytes → Except NetworkError α}
    (unique : ∀ body first second, carries body first → carries body second → first = second)
    (meaning : ∀ octets, Meaning carries octets (result octets)) : Decides carries result := by
  have means {octets : Bytes} {outcome : Except NetworkError α}
      (same : result octets = outcome) : Meaning carries octets outcome := by
    rw [← same]
    exact meaning octets
  exact {
    noResponse_iff := fun octets => by
      constructor
      · intro same
        exact (means same).eq_nil_of_isTransport rfl
      · rintro rfl
        exact (meaning []).eq_noResponse
    ok_iff := fun octets value => by
      constructor
      · intro same
        exact (means same).exists_body
      · rintro ⟨body, rfl, carried⟩
        exact (meaning (1 :: body)).eq_ok unique carried
    remote_iff := fun octets reason => by
      constructor
      · intro same
        exact (means same).exists_status
      · rintro ⟨status, failed, same⟩
        exact (meaning octets).eq_remote failed same
    cannotParse_iff := fun octets => by
      constructor
      · rintro ⟨detail, same⟩
        exact (means same).unreadable
      · rintro ⟨present, noValue, noReason⟩
        exact (meaning octets).exists_eq_cannotParse present noValue noReason
    transport_iff := fun octets => by
      constructor
      · rintro ⟨error, same, transport⟩
        exact (means same).eq_nil_of_isTransport transport
      · rintro rfl
        exact ⟨.noResponse, (meaning []).eq_noResponse, rfl⟩
    success := fun body value carried => (meaning (1 :: body)).eq_ok unique carried
    failure := fun reason =>
      (meaning _).eq_remote (show failureStatus ≠ 1 by decide) rfl }

/-! ### Reading in stages -/

/-- The first stage: the status, and the body of a success. -/
theorem meaning_successBody (octets : Bytes) :
    Meaning (fun body value => value = body) octets ((decode octets).bind successBody) := by
  cases octets with
  | nil => exact Meaning.noAnswer
  | cons status body =>
    by_cases succeeded : status = 1
    · subst succeeded
      exact Meaning.success rfl
    · have failed : (Response.mk status body).isSuccess = false :=
        beq_eq_false_iff_ne.mpr succeeded
      show Meaning _ _ (successBody ⟨status, body⟩)
      rw [successBody, failed, if_neg Bool.false_ne_true]
      cases reading : Utf8.decode body with
      | ok reason =>
        obtain rfl := (Utf8.decode_eq_ok_iff_eq_encode body reason).mp reading
        exact Meaning.failure reason succeeded
      | error fault =>
        refine Meaning.unreadableReason fault.message succeeded fun reason written => ?_
        rw [(Utf8.decode_eq_ok_iff_eq_encode body reason).mpr written] at reading
        cases reading

/-- A further stage: what it makes of a carried value is what a success then carries, and when it
makes nothing of it, it blames the answer. -/
theorem Meaning.bind {carries : Bytes → α → Prop} {becomes : Bytes → β → Prop} {octets : Bytes}
    {result : Except NetworkError α} {use : α → Except NetworkError β}
    (meaning : Meaning carries octets result)
    (accepts : ∀ body value answer, carries body value → use value = .ok answer →
      becomes body answer)
    (refuses : ∀ body value error, carries body value → use value = .error error →
      (∃ detail, error = .cannotParseResponse detail) ∧ ∀ answer, ¬ becomes body answer)
    (only : ∀ body answer, becomes body answer → ∃ value, carries body value) :
    Meaning becomes octets (result.bind use) := by
  cases meaning with
  | noAnswer => exact Meaning.noAnswer
  | @success body value carried =>
    show Meaning becomes (1 :: body) (use value)
    cases used : use value with
    | ok answer => exact Meaning.success (accepts body value answer carried used)
    | error error =>
      obtain ⟨⟨detail, rfl⟩, nothing⟩ := refuses body value error carried used
      exact Meaning.unreadableValue detail nothing
  | failure reason failed => exact Meaning.failure reason failed
  | @unreadableValue body detail nothing =>
    refine Meaning.unreadableValue detail fun answer become => ?_
    obtain ⟨value, carried⟩ := only body answer become
    exact nothing value carried
  | unreadableReason detail failed noText =>
    exact Meaning.unreadableReason detail failed noText

end SqlLedger.Response
