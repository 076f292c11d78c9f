import WebTransport.Bindings.Utf8
import WebTransport.H2.Received
import WebTransport.H2.Runs

/-!
# H2.CloseMessage — the message of a WT_CLOSE_SESSION (`close_session`, `handle_wt_close_session`)

* `closeMessage_longest`     : the longest well-formed prefix of at most 1024 bytes is sent;
* `handleWtCloseSession_of`  : the receiver takes a well-formed message of that length as it is;
* `close_session_round_trip` : code and message arrive, at most three bytes short of the limit.
-/

namespace WebTransport
namespace H2

open Bindings Utf8

namespace SessionScope

theorem truncateUtf8_longest (message : Bytes) (len : Nat) :
    LongestPrefix WellFormed len message (truncateUtf8 message len) := by
  induction len with
  | zero => exact LongestPrefix.take wellFormed_nil
  | succ len ih =>
      unfold truncateUtf8
      split_ifs with hvalid
      · exact LongestPrefix.take ((isValidUtf8_iff _).1 hvalid)
      · exact ih.succ fun hwell => hvalid ((isValidUtf8_iff _).2 hwell)

/-- The longest well-formed prefix within the limit is sent. -/
theorem closeMessage_longest (message : Bytes) :
    LongestPrefix WellFormed kMaxApplicationErrorMessageBytes message (closeMessage message) :=
  (truncateUtf8_longest message _).of_min

/-- A well-formed message is cut at a character, at most three bytes below the limit. -/
theorem closeMessage_of_wellFormed (cs : List Char) :
    ∃ front, front <+: cs ∧ closeMessage (code.encode cs) = code.encode front ∧
      min (code.encode cs).length kMaxApplicationErrorMessageBytes ≤
        (closeMessage (code.encode cs)).length + 3 := by
  rcases PrefixCode.exists_longest word_length_le cs kMaxApplicationErrorMessageBytes with
    ⟨front, hfront, hlongest, hshort⟩
  have heq : closeMessage (code.encode cs) = code.encode front :=
    (closeMessage_longest _).unique hlongest
  refine ⟨front, hfront, heq, ?_⟩
  rw [heq]
  exact hshort

/-- What a receiver makes of a code and a well-formed message within the limit. -/
theorem handleWtCloseSession_of (sc : SessionScope) {errorCode : Nat} {message : Bytes}
    (hcode : errorCode ≤ kMaxApplicationErrorCode) (hwell : WellFormed message)
    (hlen : message.length ≤ kMaxApplicationErrorMessageBytes) :
    sc.handleWtCloseSession (Capsule.wtCloseSession errorCode message).payload =
      (sc.pushEvent { type := .sessionClosed, errorCode := errorCode,
                      errorMessage := message }).eraseSession := by
  have hfour : (Capsule.errorCodeBytes errorCode).length = 4 := rfl
  have hread := Capsule.readErrorCode_errorCodeBytes hcode message
  have hdrop : (Capsule.errorCodeBytes errorCode ++ message).drop 4 = message :=
    List.drop_left' hfour
  have hvalid : isValidUtf8 message = true := (isValidUtf8_iff message).2 hwell
  unfold handleWtCloseSession Capsule.payload
  dsimp only
  rw [hdrop, hread, List.length_append, if_neg (by omega), if_neg (by omega), hvalid,
    if_neg (by simp)]

/-- For every error code and message, the payload that `close_session` builds is taken by the peer:
it reports the same code and the longest well-formed prefix of at most 1024 bytes, which for a
well-formed message ends at a character and at most three bytes below the limit. -/
theorem close_session_round_trip (sender receiver : SessionScope) (w : WtSessionInfo)
    (errorCode : UInt32) (message : Bytes) (hentry : sender.entry = some w)
    (hlive : w.isTerminated = false) :
    ∃ sent,
      (sender.closeSession errorCode.toNat message).effects = sender.effects ++
        [.discardStreamRecvBytes, .capsule (.wtCloseSession errorCode.toNat sent),
          .endStreamPending] ∧
      receiver.handleWtCloseSession (Capsule.wtCloseSession errorCode.toNat sent).payload =
        (receiver.pushEvent { type := .sessionClosed, errorCode := errorCode.toNat,
                              errorMessage := sent }).eraseSession ∧
      LongestPrefix WellFormed 1024 message sent ∧
      ∀ cs, code.encode cs = message →
        min message.length 1024 ≤ sent.length + 3 ∧
          ∃ front, front <+: cs ∧ code.encode front = sent := by
  have hlongest := closeMessage_longest message
  have hcode : errorCode.toNat ≤ kMaxApplicationErrorCode := Nat.le_of_lt_succ errorCode.toNat_lt
  refine ⟨closeMessage message, ?_, ?_, hlongest, ?_⟩
  · rw [closeSession_live hentry hlive]
  · exact handleWtCloseSession_of receiver hcode hlongest.holds hlongest.length_le
  · rintro cs rfl
    rcases closeMessage_of_wellFormed cs with ⟨front, hfront, heq, hshort⟩
    exact ⟨hshort, front, hfront, heq.symm⟩

/-- A scope with a fresh entry. -/
def fresh : SessionScope :=
  { isServer := true, config := {}, sessionId := 1, entry := some { http2StreamId := 1 } }

theorem close_session_round_trip_fresh :
    ∃ sent,
      (fresh.closeSession 7 [0x62, 0xC3]).effects =
        [.discardStreamRecvBytes, .capsule (.wtCloseSession 7 sent), .endStreamPending] ∧
      fresh.handleWtCloseSession (Capsule.wtCloseSession 7 sent).payload =
        (fresh.pushEvent { type := .sessionClosed, errorCode := 7,
                           errorMessage := sent }).eraseSession ∧
      LongestPrefix WellFormed 1024 [0x62, 0xC3] sent := by
  rcases close_session_round_trip fresh fresh { http2StreamId := 1 } 7 [0x62, 0xC3] rfl rfl with
    ⟨sent, hsent, hreceived, hlongest, -⟩
  exact ⟨sent, hsent, hreceived, hlongest⟩

end SessionScope
end H2
end WebTransport
