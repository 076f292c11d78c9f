import WebTransport.Qmux.Delivery
import WebTransport.Quic.VerifyError

/-!
# Qmux.CloseReason — the reason of a CONNECTION_CLOSE (`QmuxConnection::close`)

* `truncateUtf8_length_le`      : no reason is longer than the limit;
* `truncateUtf8_longest`        : a well-formed reason is cut at a character;
* `connectionCloseLength_le_iff` : the limit is the greatest length that fits one record;
* `close_fits_one_record`       : all of it for `close`, and the agreement with QUIC's messages.
-/

namespace WebTransport
namespace Qmux

open Bindings Utf8

namespace QmuxConnection

variable {D : Dwnx}

/-! ## Cutting the reason -/

theorem expectedLength_of_extra {lead : UInt8} {m : Nat} (h : extra lead = some m) :
    expectedLength lead.toNat = m + 1 := by
  unfold extra at h
  unfold expectedLength
  split_ifs at h <;> cases h
  · rw [if_pos (by omega)]
  · rw [if_neg (by omega), if_pos (by omega)]
  · rw [if_neg (by omega), if_neg (by omega), if_pos (by omega)]
  · rw [if_neg (by omega), if_neg (by omega), if_neg (by omega), if_pos (by omega)]

/-- The walk stops behind the last byte that is no continuation byte. -/
theorem skipContinuation_eq (front : Bytes) {tail : Bytes} {lead : UInt8}
    (hlead : ¬ IsContinuation lead) (htail : ∀ b ∈ tail, IsContinuation b) {k steps : Nat}
    (hk : k ≤ tail.length) (hsteps : k ≤ steps) :
    skipContinuation (front ++ lead :: tail) steps (front.length + 1 + k) = front.length + 1 := by
  induction k generalizing steps with
  | zero =>
      cases steps with
      | zero => rfl
      | succ steps =>
          unfold skipContinuation
          rw [Nat.add_zero, Nat.add_sub_cancel, List.getElem?_append_right le_rfl, Nat.sub_self]
          exact if_neg fun h => hlead h.2
  | succ k ih =>
      have hbyte : tail[k].toNat / 2 ^ 6 = 0x80 / 2 ^ 6 := htail _ (List.getElem_mem _)
      obtain ⟨steps, rfl⟩ := Nat.exists_eq_add_of_le' hsteps
      rw [← Nat.add_assoc steps, skipContinuation, ← Nat.add_assoc, Nat.add_sub_cancel,
        Nat.add_assoc, List.getElem?_append_right (by omega), Nat.add_sub_cancel_left,
        Nat.add_comm 1 k, List.getElem?_cons_succ, List.getElem?_eq_getElem (by omega)]
      dsimp only
      rw [if_pos ⟨by omega, hbyte⟩, Nat.add_comm k 1, ← Nat.add_assoc]
      exact ih (by omega) (by omega)

/-- The last lead byte decides. -/
theorem truncateUtf8_of_lastLead {value front tail : Bytes} {lead : UInt8} {m limit : Nat}
    (hlong : limit < value.length) (hlast : LastLead (value.take limit) front lead tail)
    (hextra : extra lead = some m) :
    truncateUtf8 value limit = if tail.length < m then front else value.take limit := by
  have hlength : (front ++ lead :: tail).length = front.length + 1 + tail.length := by
    rw [List.length_append, List.length_cons]
    omega
  have hsteps : tail.length ≤ min (front.length + 1 + tail.length) 3 :=
    le_min (Nat.le_add_left _ _) hlast.length_le
  have hskip := skipContinuation_eq front hlast.isLead hlast.continuation le_rfl hsteps
  unfold truncateUtf8
  rw [if_neg (not_le.2 hlong), hlast.eq]
  dsimp only
  rw [hlength, hskip, Nat.add_sub_cancel, List.getElem?_append_right le_rfl, Nat.sub_self,
    List.getElem?_cons_zero]
  dsimp only
  rw [expectedLength_of_extra hextra, List.take_left]
  split_ifs <;> first | rfl | omega

/-- A well-formed reason is cut at a character. -/
theorem truncateUtf8_longest {value : Bytes} (h : WellFormed value) (limit : Nat) :
    LongestPrefix WellFormed limit value (truncateUtf8 value limit) := by
  rcases Nat.lt_or_ge limit value.length with hlong | hshort
  · rcases longest_of_cut h hlong.le with
      ⟨hlongest, hnil⟩ | ⟨front, lead, tail, m, hlast, hextra, hlongest⟩
    · have hnone : truncateUtf8 value limit = value.take limit := by
        unfold truncateUtf8
        rw [if_neg (not_le.2 hlong), hnil]
        rfl
      rw [hnone]
      exact hlongest
    · rw [truncateUtf8_of_lastLead hlong hlast hextra]
      exact hlongest
  · unfold truncateUtf8
    rw [if_pos hshort]
    exact PrefixCode.longest_self h hshort

/-- No reason is longer than the limit, well-formed or not. -/
theorem truncateUtf8_length_le (value : Bytes) (limit : Nat) :
    (truncateUtf8 value limit).length ≤ limit := by
  have htake : (value.take limit).length ≤ limit := List.length_take_le limit value
  unfold truncateUtf8
  split_ifs with hshort
  · exact hshort
  · dsimp only
    split
    · exact htake
    · exact htake
    · split_ifs
      · exact le_trans (List.length_take_le' _ _) htake
      · exact htake

/-! ## The record -/

/-- The length of a CONNECTION_CLOSE frame: its type, the code, the reason's length, the reason. -/
def connectionCloseLength (errorCode reasonLength : Nat) : Nat :=
  1 + quicVarintLength errorCode + quicVarintLength reasonLength + reasonLength

/-- The limit is the greatest length that fits one record. -/
theorem connectionCloseLength_le_iff (errorCode reasonLength : Nat) :
    connectionCloseLength errorCode reasonLength ≤ defaultMaxRecordSize ↔
      reasonLength ≤ connectionCloseReasonLimit errorCode := by
  unfold connectionCloseLength connectionCloseReasonLimit defaultMaxRecordSize quicVarintLength
  dsimp only
  split_ifs <;> omega

/-- A `close` that does not throw stores the code and the reason cut to the limit. -/
theorem close_eq (s : QmuxConnection D) {errorCode : Nat} (hcode : errorCode < 2 ^ 62)
    (reason : Bytes) :
    s.close errorCode reason = .ok
      { s with
        closeReason := truncateUtf8 reason (connectionCloseReasonLimit errorCode)
        closeErrorCode := errorCode
        closeRequested := true } := by
  have hcheck : checkVarintValue errorCode "QMux error_code" = .ok () :=
    if_neg (by unfold kMaxQuicVarint; omega)
  unfold close
  rw [hcheck]
  rfl

/-- Whatever the reason, `close` stores one whose CONNECTION_CLOSE fits a record.  The limit is the
greatest length that does, a well-formed reason is cut to its longest well-formed prefix of that
length, and QUIC cuts well-formed messages at 1024 bytes as QMux does. -/
theorem close_fits_one_record (s : QmuxConnection D) (errorCode : Nat) (reason : Bytes)
    (hcode : errorCode < 2 ^ 62) :
    ∃ s' limit, s.close errorCode reason = .ok s' ∧ s'.closeErrorCode = errorCode ∧
      limit = connectionCloseReasonLimit errorCode ∧
      connectionCloseLength errorCode s'.closeReason.length ≤ 16382 ∧
      (∀ n, connectionCloseLength errorCode n ≤ 16382 ↔ n ≤ limit) ∧
      (WellFormed reason → LongestPrefix WellFormed limit reason s'.closeReason) ∧
      ∀ text, WellFormed text → Quic.truncateVerifyMessage text = truncateUtf8 text 1024 := by
  refine ⟨_, _, close_eq s hcode reason, rfl, rfl, ?_, ?_, ?_, ?_⟩
  · exact (connectionCloseLength_le_iff _ _).2 (truncateUtf8_length_le _ _)
  · exact connectionCloseLength_le_iff errorCode
  · intro hwell
    exact truncateUtf8_longest hwell _
  · intro text hwell
    exact (Quic.truncateVerifyMessage_longest hwell).unique (truncateUtf8_longest hwell 1024)

theorem encode_letters (n : Nat) : code.encode (List.replicate n 'b') = List.replicate n 0x62 := by
  induction n with
  | zero => rfl
  | succ n ih =>
      rw [List.replicate_succ, List.replicate_succ, PrefixCode.encode_cons, ih]
      rfl

/-- Of a reason of 16379 bytes the last character, two bytes across the limit, goes as a whole. -/
theorem close_fits_one_record_cut :
    ∃ s', (create [] 0 : QmuxConnection answering).close 7
        (code.encode (List.replicate 16377 'b' ++ [Char.ofNat 0xE9])) = .ok s' ∧
      s'.closeReason = List.replicate 16377 0x62 ∧
      connectionCloseLength 7 s'.closeReason.length ≤ 16382 := by
  let reason := code.encode (List.replicate 16377 'b' ++ [Char.ofNat 0xE9])
  rcases close_fits_one_record (create [] 0 : QmuxConnection answering) 7 reason (by decide) with
    ⟨s', limit, hclose, -, hlimit, hlength, -, hlongest, -⟩
  have hfits : connectionCloseReasonLimit 7 = 16378 := by decide
  have hletters : (code.encode (List.replicate 16377 'b')).length = 16377 := by
    rw [encode_letters, List.length_replicate]
  have hlast : (code.word (Char.ofNat 0xE9)).length = 2 := by decide
  have hcut : LongestPrefix WellFormed limit reason (code.encode (List.replicate 16377 'b')) :=
    PrefixCode.longest_of_front (by omega) (by omega)
  refine ⟨s', hclose, ?_, hlength⟩
  rw [(hlongest ⟨_, rfl⟩).unique hcut, encode_letters]

end QmuxConnection
end Qmux
end WebTransport
