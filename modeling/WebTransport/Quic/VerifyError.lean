import WebTransport.Bindings.QuicVarint
import WebTransport.Data.Utf8

/-!
# Quic.VerifyError — the message of a failed certificate check (`truncate_verify_message`)

* `truncateVerifyMessage_longest` : a well-formed message is cut at a character.
-/

namespace WebTransport
namespace Quic

open Bindings Utf8

/-- `kMaxVerifyErrorBytes` -/
def kMaxVerifyErrorBytes : Nat := 1024

/-- The `while (cut > 0 && ...)` loop, back over continuation bytes. -/
def skipTail (text : Bytes) : Nat → Nat
  | 0 => 0
  | cut + 1 =>
      match text[cut]? with
      | some b => if b.toNat / 2 ^ 6 = 0x80 / 2 ^ 6 then skipTail text cut else cut + 1
      | none => cut + 1

/-- The length of the character that a lead byte announces; `none` is an invalid lead byte. -/
def expectedLength (lead : Nat) : Option Nat :=
  if lead / 2 ^ 7 = 0 then some 1
  else if lead / 2 ^ 5 = 0xC0 / 2 ^ 5 then some 2
  else if lead / 2 ^ 4 = 0xE0 / 2 ^ 4 then some 3
  else if lead / 2 ^ 3 = 0xF0 / 2 ^ 3 then some 4
  else none

/-- `truncate_verify_message` -/
def truncateVerifyMessage (text : Bytes) : Bytes :=
  if text.length ≤ kMaxVerifyErrorBytes then text
  else
    let text := text.take kMaxVerifyErrorBytes
    match skipTail text text.length with
    | 0 => []
    | cut + 1 =>
        match text[cut]? with
        | none => text.take (cut + 1)
        | some lead =>
            match expectedLength lead.toNat with
            -- An invalid lead byte goes as well.
            | none => text.take cut
            | some expected =>
                if text.length - cut < expected then text.take cut else text

theorem expectedLength_of_extra {lead : UInt8} {m : Nat} (h : extra lead = some m) :
    expectedLength lead.toNat = some (m + 1) := by
  unfold extra at h
  unfold expectedLength
  split_ifs at h <;> cases h
  · rw [if_pos (by omega)]
  · rw [if_neg (by omega), if_pos (by omega)]
  · rw [if_neg (by omega), if_neg (by omega), if_pos (by omega)]
  · rw [if_neg (by omega), if_neg (by omega), if_neg (by omega), if_pos (by omega)]

/-- The loop stops behind the last byte that is no continuation byte. -/
theorem skipTail_eq (front : Bytes) {tail : Bytes} {lead : UInt8} (hlead : ¬ IsContinuation lead)
    (htail : ∀ b ∈ tail, IsContinuation b) {k : Nat} (hk : k ≤ tail.length) :
    skipTail (front ++ lead :: tail) (front.length + 1 + k) = front.length + 1 := by
  induction k with
  | zero =>
      unfold skipTail
      rw [List.getElem?_append_right le_rfl, Nat.sub_self]
      exact if_neg hlead
  | succ k ih =>
      have hbyte : tail[k].toNat / 2 ^ 6 = 0x80 / 2 ^ 6 := htail _ (List.getElem_mem _)
      rw [← Nat.add_assoc, skipTail, Nat.add_assoc, List.getElem?_append_right (by omega),
        Nat.add_sub_cancel_left, Nat.add_comm 1 k, List.getElem?_cons_succ,
        List.getElem?_eq_getElem (by omega)]
      dsimp only
      rw [if_pos hbyte, Nat.add_comm k 1, ← Nat.add_assoc]
      exact ih (by omega)

/-- The last lead byte decides. -/
theorem truncateVerifyMessage_of_lastLead {text front tail : Bytes} {lead : UInt8} {m : Nat}
    (hlong : kMaxVerifyErrorBytes < text.length)
    (hlast : LastLead (text.take kMaxVerifyErrorBytes) front lead tail)
    (hextra : extra lead = some m) :
    truncateVerifyMessage text =
      if tail.length < m then front else text.take kMaxVerifyErrorBytes := by
  have hskip := skipTail_eq front hlast.isLead hlast.continuation le_rfl
  have hlength : (front ++ lead :: tail).length = front.length + 1 + tail.length := by
    rw [List.length_append, List.length_cons]
    omega
  unfold truncateVerifyMessage
  rw [if_neg (not_le.2 hlong), hlast.eq]
  dsimp only
  rw [hlength, hskip]
  dsimp only
  rw [List.getElem?_append_right le_rfl, Nat.sub_self, List.getElem?_cons_zero]
  dsimp only
  rw [expectedLength_of_extra hextra]
  dsimp only
  rw [List.take_left]
  split_ifs <;> first | rfl | omega

/-- A well-formed message is cut at a character. -/
theorem truncateVerifyMessage_longest {text : Bytes} (h : WellFormed text) :
    LongestPrefix WellFormed kMaxVerifyErrorBytes text (truncateVerifyMessage text) := by
  rcases Nat.lt_or_ge kMaxVerifyErrorBytes text.length with hlong | hshort
  · rcases longest_of_cut h hlong.le with ⟨-, hnil⟩ | ⟨front, lead, tail, m, hlast, hextra, hlongest⟩
    · have hlength := congrArg List.length hnil
      rw [List.length_take, List.length_nil] at hlength
      unfold kMaxVerifyErrorBytes at hlength hlong
      omega
    · rw [truncateVerifyMessage_of_lastLead hlong hlast hextra]
      exact hlongest
  · unfold truncateVerifyMessage
    rw [if_pos hshort]
    exact PrefixCode.longest_self h hshort

end Quic
end WebTransport
