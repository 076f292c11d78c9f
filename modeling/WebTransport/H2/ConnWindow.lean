import WebTransport.H2.Session

/-!
# H2.ConnWindow — the connection-level receive credit

Every DATA byte is either waiting in `unconsumed_recv_bytes_`, or waiting in `conn_consumed_size_`
to be announced, or announced through `nghttp2_conn_extend_max_offset`.

* `Credit`        : that sentence as an invariant of an `H2Session`;
* `Credit.step`   : one input keeps it;
* `credit_conserved` : it holds along every run.
-/

namespace WebTransport
namespace H2

namespace H2Session

/-- The bytes passed to `nghttp2_conn_extend_max_offset`. -/
def extended (log : List NgCall) : Nat :=
  (log.map fun
    | .extendMaxOffset size => size
    | _ => 0).sum

/-- The DATA bytes of an input. -/
def Input.dataBytes : Input → Nat
  | .recvData _ data _ => data.length
  | _ => 0

/-- The DATA bytes received in a run. -/
def dataReceived (inputs : List Input) : Nat := (inputs.map Input.dataBytes).sum

/-- The books balance: `owed` bytes are recorded against streams, `conn_consumed_size_` waits below
half the window, the rest of the `received` bytes was announced, in half-window steps from `base`
on. -/
structure Balanced (s : H2Session) (owed received base : Nat) : Prop where
  window : s.connRecvWindowSize = s.connConsumedSize + owed
  consumed_nonneg : 0 ≤ s.connConsumedSize
  consumed_lt : s.connConsumedSize < connLocalWindowSize / 2
  announced : (extended s.ngLog : Int) = received - s.connRecvWindowSize
  steps : extended s.ngLog = base ∨ base + connLocalWindowSize / 2 ≤ (extended s.ngLog : Int)

/-- The books balance with what the receive record says. -/
def Credit (received base : Nat) (s : H2Session) : Prop :=
  Balanced s s.unconsumedRecvBytes.total received base

theorem extended_append (log : List NgCall) (call : NgCall) :
    extended (log ++ [call]) = extended log + extended [call] := by
  simp [extended]

namespace Balanced

variable {s : H2Session} {owed received base : Nat}

/-- A call that announces no connection credit keeps the books. -/
theorem callNg (h : Balanced s owed received base) {call : NgCall} (hcall : extended [call] = 0) :
    Balanced (s.callNg call) owed received base := by
  have hlog : extended (s.callNg call).ngLog = extended s.ngLog := by
    rw [H2Session.callNg, extended_append, hcall, Nat.add_zero]
  refine ⟨h.window, h.consumed_nonneg, h.consumed_lt, ?_, ?_⟩
  · rw [hlog]
    exact h.announced
  · rw [hlog]
    exact h.steps

/-- `consume_connection_recv_bytes` moves `size` bytes out of what is owed. -/
theorem consumeConnectionRecvBytes {size : Nat} (h : Balanced s (owed + size) received base) :
    Balanced (s.consumeConnectionRecvBytes size) owed received base := by
  rcases h with ⟨hwindow, hnonneg, hlt, hann, hsteps⟩
  have hhalf : connLocalWindowSize / 2 = 32767 := rfl
  rw [hhalf] at hlt
  -- Nothing is owed twice, so what was consumed is never more than the window.
  have hmin : min (s.connConsumedSize + size) s.connRecvWindowSize = s.connConsumedSize + size := by
    rw [hwindow]
    push_cast
    omega
  unfold H2Session.consumeConnectionRecvBytes
  dsimp only
  rw [hmin, hhalf]
  split_ifs with hzero hsend
  · subst hzero
    exact ⟨hwindow, hnonneg, hlt, hann, hsteps⟩
  · have hone : extended [.extendMaxOffset (s.connConsumedSize + size).toNat] =
        (s.connConsumedSize + size).toNat := by simp [extended]
    refine ⟨?_, ?_, ?_, ?_, ?_⟩
    · dsimp only
      rw [hwindow]
      push_cast
      omega
    · dsimp only
      omega
    · rw [hhalf]
      dsimp only
      omega
    · dsimp only [H2Session.callNg]
      rw [extended_append, hone]
      push_cast
      omega
    · dsimp only [H2Session.callNg]
      rw [extended_append, hone, hhalf]
      push_cast
      omega
  · refine ⟨?_, ?_, ?_, hann, hsteps⟩
    · dsimp only
      rw [hwindow]
      push_cast
      omega
    · dsimp only
      omega
    · rw [hhalf]
      dsimp only
      omega

end Balanced

theorem consumeConnectionRecvBytes_unconsumed (s : H2Session) (size : Nat) :
    (s.consumeConnectionRecvBytes size).unconsumedRecvBytes = s.unconsumedRecvBytes := by
  unfold H2Session.consumeConnectionRecvBytes
  dsimp only
  split_ifs <;> rfl

namespace Credit

variable {s : H2Session} {received base : Nat}

/-- The invariant reads four fields of the state. -/
theorem of_eq {s' : H2Session} (h : Credit received base s)
    (hwindow : s'.connRecvWindowSize = s.connRecvWindowSize)
    (hconsumed : s'.connConsumedSize = s.connConsumedSize)
    (hunconsumed : s'.unconsumedRecvBytes = s.unconsumedRecvBytes) (hlog : s'.ngLog = s.ngLog) :
    Credit received base s' := by
  rcases h with ⟨h1, h2, h3, h4, h5⟩
  refine ⟨?_, ?_, ?_, ?_, ?_⟩
  · rw [hwindow, hconsumed, hunconsumed]
    exact h1
  · rw [hconsumed]
    exact h2
  · rw [hconsumed]
    exact h3
  · rw [hwindow, hlog]
    exact h4
  · rw [hlog]
    exact h5

/-- `consume_recv_bytes` moves bytes from the receive record to `conn_consumed_size_`. -/
theorem consumeRecvBytes (h : Credit received base s) (streamId : Int) (size : Nat) :
    Credit received base (s.consumeRecvBytes streamId size) := by
  unfold H2Session.consumeRecvBytes
  cases hfind : s.unconsumedRecvBytes.find? streamId with
  | none => split_ifs <;> exact h
  | some unconsumed =>
      by_cases hzero : size = 0
      · rw [if_pos hzero]
        exact h
      by_cases hnone : min size unconsumed = 0
      · rw [if_neg hzero]
        dsimp only
        rw [if_pos hnone]
        exact h
      · rw [if_neg hzero]
        dsimp only
        rw [if_neg hnone]
        have herase := s.unconsumedRecvBytes.total_erase streamId
        have hinsert := s.unconsumedRecvBytes.total_insert streamId
          (unconsumed - min size unconsumed)
        rw [hfind, Option.getD_some] at herase hinsert
        -- The record of the stream shrinks by what is consumed.
        have htotal : s.unconsumedRecvBytes.total =
            (if unconsumed - min size unconsumed = 0 then s.unconsumedRecvBytes.erase streamId
              else s.unconsumedRecvBytes.insert streamId (unconsumed - min size unconsumed)).total +
            min size unconsumed := by
          split_ifs <;> omega
        have hbal : Balanced s _ received base := h
        rw [htotal] at hbal
        have hcalled := hbal.callNg
          (show extended [.extendMaxStreamOffset streamId (min size unconsumed)] = 0 from rfl)
        have hdone := hcalled.consumeConnectionRecvBytes
        have hsame : ((s.callNg (.extendMaxStreamOffset streamId (min size unconsumed))
            ).consumeConnectionRecvBytes (min size unconsumed)).unconsumedRecvBytes =
            s.unconsumedRecvBytes := consumeConnectionRecvBytes_unconsumed _ _
        unfold Credit
        dsimp only
        rw [hsame]
        exact ⟨hdone.window, hdone.consumed_nonneg, hdone.consumed_lt, hdone.announced,
          hdone.steps⟩

/-- `discard_stream_recv_bytes` moves the whole record of a stream. -/
theorem discardStreamRecvBytes (h : Credit received base s) (streamId : Int) :
    Credit received base (s.discardStreamRecvBytes streamId) := by
  unfold H2Session.discardStreamRecvBytes
  cases hfind : s.unconsumedRecvBytes.find? streamId with
  | none => exact h
  | some remaining =>
      have herase := s.unconsumedRecvBytes.total_erase streamId
      rw [hfind, Option.getD_some] at herase
      have hbal : Balanced { s with unconsumedRecvBytes := s.unconsumedRecvBytes.erase streamId }
          ((s.unconsumedRecvBytes.erase streamId).total + remaining) received base := by
        rw [herase]
        exact ⟨h.window, h.consumed_nonneg, h.consumed_lt, h.announced, h.steps⟩
      have hdone := hbal.consumeConnectionRecvBytes
      unfold Credit
      rw [consumeConnectionRecvBytes_unconsumed]
      exact hdone

/-- Every effect of a session method keeps the books. -/
theorem perform (h : Credit received base s) (sessionId : Int) (e : Effect) :
    Credit received base (s.perform sessionId e) := by
  cases e with
  | event e => exact h.of_eq rfl rfl rfl rfl
  | capsule c => exact h.of_eq rfl rfl rfl rfl
  | consumeRecvBytes size => exact h.consumeRecvBytes sessionId size
  | discardStreamRecvBytes => exact h.discardStreamRecvBytes sessionId
  | eraseStreamBuffers => exact h.of_eq rfl rfl rfl rfl
  | endStreamPending => exact h.of_eq rfl rfl rfl rfl
  | shutdownStream errorCode => exact Balanced.callNg h rfl
  | dispatch type payload => exact h

theorem foldl_perform (h : Credit received base s) (sessionId : Int) (es : List Effect) :
    Credit received base (es.foldl (H2Session.perform sessionId) s) := by
  induction es generalizing s with
  | nil => exact h
  | cons e es ih => exact ih (h.perform sessionId e)

/-- Whatever a session method does, committing it keeps the books. -/
theorem commit (h : Credit received base s) (sc : SessionScope) :
    Credit received base (s.commit sc) := by
  refine foldl_perform ?_ sc.sessionId sc.effects
  exact h.of_eq rfl rfl rfl rfl

theorem inScope (h : Credit received base s) (sessionId : Int) (f : SessionScope → SessionScope) :
    Credit received base (s.inScope sessionId f) := h.commit _

/-! ## The inputs -/

theorem onWrite (h : Credit received base s) (callback : WriteCallback) :
    Credit received base (s.onWrite callback) := by
  cases callback with
  | readData streamId =>
      have hfields : ∀ s' : H2Session, (s.onReadData streamId).1 = s' →
          s'.connRecvWindowSize = s.connRecvWindowSize ∧
          s'.connConsumedSize = s.connConsumedSize ∧
          s'.unconsumedRecvBytes = s.unconsumedRecvBytes ∧ s'.ngLog = s.ngLog := by
        rintro s' rfl
        unfold onReadData
        cases s.http2StreamBuffers.find? streamId <;> dsimp only <;> split <;> split_ifs <;>
          exact ⟨rfl, rfl, rfl, rfl⟩
      rcases hfields _ rfl with ⟨h1, h2, h3, h4⟩
      exact h.of_eq h1 h2 h3 h4
  | writeStreamDataOffset streamId offset len =>
      unfold H2Session.onWrite onWriteStreamDataOffset
      dsimp only
      split_ifs
      · exact h.of_eq rfl rfl rfl rfl
      · cases s.http2StreamBuffers.find? streamId with
        | none => exact h.of_eq rfl rfl rfl rfl
        | some queue => exact h.of_eq rfl rfl rfl rfl
  | streamClose streamId errorCode => exact (h.inScope streamId _).of_eq rfl rfl rfl rfl

theorem foldl_onWrite (h : Credit received base s) (callbacks : List WriteCallback) :
    Credit received base (callbacks.foldl H2Session.onWrite s) := by
  induction callbacks generalizing s with
  | nil => exact h
  | cons callback rest ih => exact ih (h.onWrite callback)

theorem flushOutput (h : Credit received base s) (callbacks : List WriteCallback) :
    Credit received base (s.flushOutput callbacks) := by
  unfold H2Session.flushOutput
  split_ifs
  · exact h
  · exact h.foldl_onWrite callbacks

theorem rejectSession (h : Credit received base s) (sessionId status : Int) (rv : Option NgError) :
    Credit received base (s.orElse (s.rejectSession sessionId status rv)) := by
  unfold H2Session.rejectSession
  split_ifs
  · exact h
  · exact h
  · exact h
  · exact h
  · exact Credit.inScope (Balanced.callNg h rfl) sessionId _

theorem rejectInCallback (h : Credit received base s) (sessionId status : Int)
    (rv : Option NgError) :
    Credit received base (s.rejectInCallback sessionId status rv) := by
  have heq : s.rejectInCallback sessionId status rv =
      s.orElse (s.rejectSession sessionId status rv) := by
    unfold H2Session.rejectInCallback orElse
    cases s.rejectSession sessionId status rv <;> rfl
  rw [heq]
  exact h.rejectSession sessionId status rv

theorem dropHeaders (h : Credit received base s) (streamId : Int) :
    Credit received base (s.dropHeaders streamId) := h.of_eq rfl rfl rfl rfl

theorem onEndHeaders (h : Credit received base s) (sessionId : Int) (rv : Option NgError) :
    Credit received base (s.onEndHeaders sessionId rv) := by
  unfold H2Session.onEndHeaders
  cases s.pendingHeaders.find? sessionId with
  | none => exact h
  | some headers =>
      dsimp only
      split_ifs
      · unfold onRequestHeaders
        dsimp only
        split_ifs
        · exact (h.dropHeaders sessionId).rejectInCallback sessionId _ rv
        · split
          · exact (h.dropHeaders sessionId).rejectInCallback sessionId _ rv
          · exact (h.inScope sessionId _).dropHeaders sessionId
        · exact (h.rejectInCallback sessionId _ rv).dropHeaders sessionId
      · unfold onResponseHeaders
        dsimp only
        split_ifs
        · exact (h.inScope sessionId _).dropHeaders sessionId
        · exact (h.inScope sessionId _).dropHeaders sessionId
        · exact h.dropHeaders sessionId

/-- DATA is the one input that adds to the books: first to the window, then to the record of its
session or, when there is none to charge, straight to what was consumed. -/
theorem onRecvData (h : Credit received base s) (sessionId : Int) (data : Bytes)
    (rv : Option NgError) :
    Credit (received + data.length) base (s.onRecvData sessionId data rv) := by
  have hadd : Balanced { s with connRecvWindowSize := s.connRecvWindowSize + data.length }
      (s.unconsumedRecvBytes.total + data.length) (received + data.length) base := by
    rcases h with ⟨h1, h2, h3, h4, h5⟩
    refine ⟨?_, h2, h3, ?_, h5⟩
    · dsimp only
      rw [h1]
      push_cast
      ring
    · dsimp only
      rw [h4]
      push_cast
      ring
  have hdropped : Credit (received + data.length) base
      ({ s with connRecvWindowSize := s.connRecvWindowSize + data.length
          }.consumeConnectionRecvBytes data.length) := by
    unfold Credit
    rw [consumeConnectionRecvBytes_unconsumed]
    exact hadd.consumeConnectionRecvBytes
  unfold H2Session.onRecvData
  dsimp only
  cases s.wtSessions.find? sessionId with
  | none => exact hdropped
  | some w =>
      have hrecorded : Credit (received + data.length) base
          { s with
            connRecvWindowSize := s.connRecvWindowSize + data.length
            unconsumedRecvBytes := s.unconsumedRecvBytes.insert sessionId
              ((s.unconsumedRecvBytes.find? sessionId).getD 0 + data.length) } := by
        have hinsert := s.unconsumedRecvBytes.total_insert sessionId
          ((s.unconsumedRecvBytes.find? sessionId).getD 0 + data.length)
        have htotal : (s.unconsumedRecvBytes.insert sessionId
            ((s.unconsumedRecvBytes.find? sessionId).getD 0 + data.length)).total =
            s.unconsumedRecvBytes.total + data.length := by omega
        unfold Credit
        dsimp only
        rw [htotal]
        exact ⟨hadd.window, hadd.consumed_nonneg, hadd.consumed_lt, hadd.announced,
          hadd.steps⟩
      dsimp only
      split_ifs with hterm hempty
      · exact hdropped
      · rw [hempty] at hadd ⊢
        exact hadd
      · exact hrecorded.inScope sessionId _
      · exact hrecorded
      · exact hrecorded.rejectInCallback sessionId 413 rv
      · exact hrecorded.inScope sessionId _

theorem drainAccepted (h : Credit received base s) (sessionId : Int) (flush : List WriteCallback) :
    Credit received base (s.drainAccepted sessionId flush) :=
  ((h.inScope sessionId _).flushOutput flush).inScope sessionId _

theorem finishAccept (h : Credit received base s) (sessionId : Int)
    (resetFlush : List WriteCallback) :
    Credit received base (s.finishAccept sessionId resetFlush) := by
  unfold H2Session.finishAccept
  cases s.wtSessions.find? sessionId with
  | none => exact h
  | some w =>
      dsimp only
      split_ifs
      · exact h
      · exact (h.inScope sessionId _).flushOutput resetFlush
      · exact h.inScope sessionId _
      · exact h.inScope sessionId _

theorem acceptSession (h : Credit received base s) (sessionId : Int) (rv : Option NgError)
    (flush resetFlush : List WriteCallback) :
    Credit received base (s.acceptSession sessionId rv flush resetFlush).1 := by
  have hcalled : Credit received base
      (s.callNg (.submitResponse sessionId (acceptHeaders s.config))) := Balanced.callNg h rfl
  unfold H2Session.acceptSession
  split_ifs
  · exact h
  · cases rv with
    | some err => exact hcalled.inScope sessionId _
    | none => exact (hcalled.drainAccepted sessionId flush).finishAccept sessionId resetFlush

theorem connect (h : Credit received base s) (url origin : Bytes) (streamId : Int)
    (flush : List WriteCallback) : Credit received base (s.connect url origin streamId flush).1 := by
  have hcalled : ∀ headers, Credit received base (s.callNg (.submitRequest headers)) :=
    fun headers => Balanced.callNg h rfl
  unfold H2Session.connect
  cases Bindings.parseAuthorityPath url with
  | none =>
      dsimp only
      split_ifs <;> exact h
  | some target =>
      dsimp only
      split_ifs
      · exact h
      · exact h
      · exact h
      · exact hcalled _
      · exact ((hcalled _).inScope streamId _).flushOutput flush

theorem openStream (h : Credit received base s) (sessionId : Int) (isUnidirectional : Bool) :
    Credit received base (s.openStream sessionId isUnidirectional).1 := by
  unfold H2Session.openStream
  cases s.wtSessions.find? sessionId with
  | none => exact h
  | some w => exact h.commit _

theorem resetStream (h : Credit received base s) (sessionId : Int) (streamId : Nat)
    (errorCode : UInt32) :
    Credit received base (s.orElse (s.resetStream sessionId streamId errorCode)) := by
  unfold H2Session.resetStream
  split_ifs
  · exact h
  · exact h.commit _

theorem stopSending (h : Credit received base s) (sessionId : Int) (streamId : Nat)
    (errorCode : UInt32) :
    Credit received base (s.orElse (s.stopSending sessionId streamId errorCode)) := by
  unfold H2Session.stopSending
  split_ifs
  · exact h
  · exact h.commit _

theorem nextEvent (h : Credit received base s) : Credit received base s.nextEvent.1 := by
  unfold H2Session.nextEvent
  cases s.events with
  | nil => exact h
  | cons e rest => exact h.of_eq rfl rfl rfl rfl

theorem onRecvSettingsEntry (h : Credit received base s) (id value : Nat) :
    Credit received base (s.onRecvSettingsEntry id value) := by
  unfold H2Session.onRecvSettingsEntry
  split_ifs
  all_goals exact h.of_eq rfl rfl rfl rfl

/-- One input adds its DATA bytes to the books and nothing else. -/
theorem step (h : Credit received base s) (input : Input) :
    Credit (received + input.dataBytes) base (s.step input) := by
  cases input with
  | recvSettingsEntry id value => exact h.onRecvSettingsEntry id value
  | beginHeaders streamId => exact h.of_eq rfl rfl rfl rfl
  | recvHeader streamId name value => exact h.of_eq rfl rfl rfl rfl
  | endHeaders streamId rv => exact h.onEndHeaders streamId rv
  | endTrailers streamId => exact h.dropHeaders streamId
  | recvData streamId data rv => exact h.onRecvData streamId data rv
  | remoteEndStream streamId => exact h.commit _
  | shutdown lastStreamId errorCode => exact h.of_eq rfl rfl rfl rfl
  | write callback => exact h.onWrite callback
  | readError err => exact h.of_eq rfl rfl rfl rfl
  | connect url origin streamId flush => exact h.connect url origin streamId flush
  | acceptSession sessionId rv flush resetFlush =>
      exact h.acceptSession sessionId rv flush resetFlush
  | rejectSession sessionId status rv => exact h.rejectSession sessionId status rv
  | openStream sessionId isUnidirectional => exact h.openStream sessionId isUnidirectional
  | sendStreamData sessionId streamId data fin => exact h.commit _
  | resetStream sessionId streamId errorCode => exact h.resetStream sessionId streamId errorCode
  | stopSending sessionId streamId errorCode => exact h.stopSending sessionId streamId errorCode
  | sendDatagram sessionId data => exact h.commit _
  | closeSession sessionId errorCode message => exact h.commit _
  | drainSession sessionId => exact h.commit _
  | nextEvent => exact h.nextEvent

/-- What was announced stays announced: an input adds its DATA bytes, and opens the window by
nothing or by at least half of it. -/
theorem window_step (h : Credit received base s) (input : Input) :
    (s.step input).connRecvWindowSize = s.connRecvWindowSize + input.dataBytes ∨
      (s.step input).connRecvWindowSize + connLocalWindowSize / 2 ≤
        s.connRecvWindowSize + input.dataBytes := by
  have hself : Credit received (extended s.ngLog) s :=
    ⟨h.window, h.consumed_nonneg, h.consumed_lt, h.announced, Or.inl rfl⟩
  have hstep := hself.step input
  have hann := hstep.announced
  have hsteps := hstep.steps
  have hbefore := h.announced
  have hhalf : connLocalWindowSize / 2 = 32767 := rfl
  rw [hhalf] at hsteps ⊢
  push_cast at hann
  omega

/-- The books balance along a run. -/
theorem run (h : Credit received base s) (inputs : List Input) :
    Credit (received + dataReceived inputs) base (s.run inputs) := by
  induction inputs generalizing s received with
  | nil => exact h
  | cons input rest ih =>
      have hrest := ih (h.step input)
      have hsum : received + dataReceived (input :: rest) =
          received + input.dataBytes + dataReceived rest := by
        simp [dataReceived, Nat.add_assoc]
      rw [hsum]
      exact hrest

end Credit

/-- A connection starts with empty books. -/
theorem credit_create {isServer : Bool} {config : H2SessionConfig} {s : H2Session}
    (h : create isServer config = .ok s) : Credit 0 0 s := by
  unfold create at h
  cases hcheck : config.check with
  | error message =>
      rw [hcheck] at h
      cases h
  | ok u =>
      rw [hcheck] at h
      cases h
      exact ⟨rfl, le_refl _, (by decide : (0 : Int) < connLocalWindowSize / 2), rfl,
        Or.inl rfl⟩

/-- Connection-level receive credit is conserved, whatever happens to the sessions. -/
theorem credit_conserved {isServer : Bool} {config : H2SessionConfig} {s : H2Session}
    (h : create isServer config = .ok s) (inputs : List Input) :
    (s.run inputs).connRecvWindowSize =
        (s.run inputs).connConsumedSize + (s.run inputs).unconsumedRecvBytes.total ∧
      0 ≤ (s.run inputs).connConsumedSize ∧
      (s.run inputs).connConsumedSize < connLocalWindowSize / 2 ∧
      (extended (s.run inputs).ngLog : Int) =
        dataReceived inputs - (s.run inputs).connRecvWindowSize := by
  have hrun := (credit_create h).run inputs
  rw [Nat.zero_add] at hrun
  exact ⟨hrun.window, hrun.consumed_nonneg, hrun.consumed_lt, hrun.announced⟩

/-- A session is opened and gets a part of a capsule; then bytes come for a stream without a
session. -/
def partialCapsule : List Input :=
  [.beginHeaders 1, .recvHeader 1 (ascii ":method") (ascii "CONNECT"),
    .recvHeader 1 (ascii ":protocol") (ascii "webtransport"), .endHeaders 1 none,
    .acceptSession 1 none [] [], .recvData 1 [0, 3, 7] none, .recvData 3 [4, 5] none]

/-- The part of the capsule is not credited yet, the bytes without a session are credited at once,
and nothing is announced before half of the window is used. -/
theorem credit_conserved_partial_capsule :
    create true {} = .ok { isServer := true, config := {} } ∧
      let s := run { isServer := true, config := {} } partialCapsule
      s.unconsumedRecvBytes.total = 3 ∧ s.connConsumedSize = 2 ∧ s.connRecvWindowSize = 2 + 3 ∧
        (extended s.ngLog : Int) = dataReceived partialCapsule - s.connRecvWindowSize := by
  have hcreate : create true {} = .ok { isServer := true, config := {} } := rfl
  have hdone := credit_conserved hcreate partialCapsule
  have hheld : (run { isServer := true, config := {} } partialCapsule).unconsumedRecvBytes.total =
      3 := by decide +kernel
  have hconsumed : (run { isServer := true, config := {} } partialCapsule).connConsumedSize = 2 := by
    decide +kernel
  refine ⟨hcreate, hheld, hconsumed, ?_, hdone.2.2.2⟩
  rw [hdone.1, hheld, hconsumed]
  rfl

end H2Session

end H2
end WebTransport
