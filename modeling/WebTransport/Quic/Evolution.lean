import WebTransport.Quic.Connection

/-!
# Quic.Evolution — how the calls change the streams

Every call of a `QuicConnection` changes the maps of the streams, and the log, in a few ways only.  A
transitive relation between states that allows these is respected by every call: `Evolves.step` walks
through the loops of `send` and the callbacks once and for all.
-/

namespace WebTransport
namespace Quic

open QuicConnection

variable {N : Ngtcp2}

/-- The relation allows what the calls do to the streams, `send_stream_data` apart. -/
structure Evolves (R : QuicConnection N → QuicConnection N → Prop) : Prop where
  trans : ∀ {s s' s''}, R s s' → R s' s'' → R s s''
  same : ∀ {s s'}, s'.streamBuffers = s.streamBuffers → s'.streamUnacked = s.streamUnacked →
    s'.streamAckedOffset = s.streamAckedOffset → s'.log = s.log → R s s'
  resetBuffers : ∀ s id, R s (s.resetBuffers id)
  forgetStream : ∀ s id, R s (s.forgetStream id)
  eraseBuffers : ∀ s id, R s (s.eraseBuffers id)
  acked : ∀ s id offset datalen,
    R s ((s.ackedStreamDataOffsetCb id offset datalen).record (.acked id offset datalen))
  writeFront : ∀ s id buf rest more now, s.buffers id = buf :: rest →
    R s (s.writeFront id buf rest more now).1

namespace Evolves

variable {R : QuicConnection N → QuicConnection N → Prop}

theorem refl (h : Evolves R) (s : QuicConnection N) : R s s := h.same rfl rfl rfl rfl

theorem onCallback (h : Evolves R) (s : QuicConnection N) (callback : Callback N.Addr) :
    R s (s.onCallback callback) := by
  cases callback with
  | recvStreamData | streamReset | recvStopSending | recvDatagram | handshakeCompleted | newSession
  | verifyFailed => exact h.same rfl rfl rfl rfl
  | ackedStreamDataOffset id offset datalen => exact h.acked s id offset datalen
  | streamOpen id =>
      have hpush : R s (s.pushEvent { type := .streamOpened, streamId := id }) :=
        h.same rfl rfl rfl rfl
      exact h.trans hpush (h.resetBuffers _ id)
  | streamClose id code =>
      have hpush : R s
          (s.pushEvent { type := .streamClosed, streamId := id, errorCode := code }) :=
        h.same rfl rfl rfl rfl
      exact h.trans hpush (h.forgetStream _ id)
  | pathValidation | tlsEarlyDataRejected =>
      simp only [QuicConnection.onCallback]
      split <;> exact h.same rfl rfl rfl rfl

theorem onCallbacks (h : Evolves R) (s : QuicConnection N) (callbacks : List (Callback N.Addr)) :
    R s (callbacks.foldl QuicConnection.onCallback s) := by
  induction callbacks generalizing s with
  | nil => exact h.refl s
  | cons callback callbacks ih => exact h.trans (h.onCallback s callback) (ih _)

theorem writeStream (h : Evolves R) (id : Int) (now fuel : Nat) (s : QuicConnection N)
    (moreUsed : Bool) : R s (writeStream id now fuel s moreUsed).1 := by
  induction fuel generalizing s moreUsed with
  | zero => exact h.refl s
  | succ fuel ih =>
      simp only [QuicConnection.writeStream]
      split
      · exact h.refl s
      · rename_i buf rest hbuffers
        have hfront := h.writeFront s id buf rest
          (!rest.isEmpty || !s.datagramQueue.isEmpty) now hbuffers
        split_ifs
        · exact h.trans hfront (ih _ _)
        · exact h.trans hfront (h.same rfl rfl rfl rfl)
        · exact hfront

theorem writeStreams (h : Evolves R) (now : Nat) (streamIds : List Int) (s : QuicConnection N)
    (moreUsed : Bool) : R s (writeStreams now streamIds s moreUsed).1 := by
  induction streamIds generalizing s moreUsed with
  | nil => exact h.refl s
  | cons id streamIds ih =>
      have hone := h.writeStream id now (outstanding (s.buffers id)) s moreUsed
      simp only [QuicConnection.writeStreams]
      split <;> rename_i heq <;> rw [heq] at hone
      · exact hone
      · exact h.trans hone (ih _ _)

theorem writeDatagrams (h : Evolves R) (now : Nat) (datagrams : List Bytes) (s : QuicConnection N)
    (moreUsed : Bool) : R s (writeDatagrams now datagrams s moreUsed).1 := by
  induction datagrams generalizing s moreUsed with
  | nil => exact h.refl s
  | cons datagram datagrams ih =>
      let popped : QuicConnection N :=
        { s with conn := (N.writevDatagram s.conn s.path datagram now).1,
                 datagramQueue := datagrams }
      have hpopped : R s popped := h.same rfl rfl rfl rfl
      simp only [QuicConnection.writeDatagrams]
      split_ifs <;> first | exact h.trans hpopped (ih _ _) | exact h.same rfl rfl rfl rfl

theorem finishSend (h : Evolves R) (s : QuicConnection N) (moreUsed : Bool) (now : Nat) :
    R s (s.finishSend moreUsed now).1 := by
  simp only [QuicConnection.finishSend]
  split_ifs <;> exact h.same rfl rfl rfl rfl

theorem sendData (h : Evolves R) (s : QuicConnection N) (now : Nat) : R s (s.sendData now).1 := by
  have hstart : R s { s with timestampNs := now } := h.same rfl rfl rfl rfl
  have hstreams := h.trans hstart
    (h.writeStreams now s.streamBuffers.keys { s with timestampNs := now } false)
  simp only [QuicConnection.sendData]
  split <;> rename_i heq <;> rw [heq] at hstreams
  · exact hstreams
  · rename_i s₁ moreUsed
    have hdatagrams := h.trans hstreams (h.writeDatagrams now s₁.datagramQueue s₁ moreUsed)
    split <;> rename_i hdg <;> rw [hdg] at hdatagrams
    · exact hdatagrams
    · exact h.trans hdatagrams (h.finishSend _ _ now)

theorem send (h : Evolves R) (s : QuicConnection N) (now : Nat) : R s (s.send now).1 := by
  simp only [QuicConnection.send]
  split
  · simp only [sendClose]
    split_ifs <;> exact h.same rfl rfl rfl rfl
  · split_ifs
    · exact h.refl s
    · exact h.sendData s now

theorem afterRead (h : Evolves R) (s : QuicConnection N) (saved : Ngtcp2Path N.Addr) (pktRecv : Nat)
    (rv : Int) : R s (s.afterRead saved pktRecv rv).1 := by
  simp only [QuicConnection.afterRead]
  split_ifs <;> first
    | exact h.same rfl rfl rfl rfl
    | (unfold consumeVerifyError; split <;> exact h.same rfl rfl rfl rfl)

theorem receive (h : Evolves R) (s : QuicConnection N) (datagram : Datagram) (now : Nat) :
    R s (s.receive datagram now).1 := by
  simp only [QuicConnection.receive]
  split_ifs
  · exact h.refl s
  · exact h.refl s
  · split
    · exact h.refl s
    · rename_i moved hpath
      have hmoved : R s moved := by
        simp only [updatePathAddresses, Option.bind_eq_bind, Option.bind_eq_some_iff] at hpath
        rcases hpath with ⟨near, -, remote, -, hsome⟩
        cases hsome
        exact h.same rfl rfl rfl rfl
      have hstart : R moved
          { moved with conn := (N.readPkt moved.conn moved.path datagram.data now).1,
                       timestampNs := now } := h.same rfl rfl rfl rfl
      have hread : R moved (moved.readPkt datagram.data now).1 :=
        h.trans hstart (h.onCallbacks _ _)
      exact h.trans (h.trans hmoved hread) (h.afterRead _ _ _ _)

theorem handleTimeout (h : Evolves R) (s : QuicConnection N) (now : Nat) :
    R s (s.handleTimeout now) := by
  simp only [QuicConnection.handleTimeout]
  split_ifs
  · exact h.same rfl rfl rfl rfl
  · exact h.refl s
  · exact h.refl s
  · have hstart : R s { s with conn := (N.handleExpiry s.conn now).1, timestampNs := now } :=
      h.same rfl rfl rfl rfl
    have hcallbacks := h.onCallbacks
      { s with conn := (N.handleExpiry s.conn now).1, timestampNs := now }
      (N.handleExpiry s.conn now).2.1
    refine h.trans (h.trans hstart hcallbacks) ?_
    unfold afterExpiry
    split_ifs <;> exact h.same rfl rfl rfl rfl

theorem afterShutdown (h : Evolves R) (s : QuicConnection N) (rv : Int) (text : String) :
    R s (s.afterShutdown rv text) := by
  unfold QuicConnection.afterShutdown
  split_ifs <;> exact h.same rfl rfl rfl rfl

/-- A call stays within the relation, if its payload does. -/
theorem step (h : Evolves R) (s : QuicConnection N) (now : Nat) (input : Input)
    (hqueue : ∀ id data fin, input = .sendStreamData id data fin →
      R s (s.sendStreamData id data fin)) : R s (s.step now input).1 := by
  have hconn : ∀ conn, R s { s with conn := conn } := fun conn => h.same rfl rfl rfl rfl
  cases input with
  | receive datagram => exact h.receive s datagram now
  | send => exact h.send s now
  | getTimeoutNs => exact h.refl s
  | handleTimeout => exact h.handleTimeout s now
  | openStream bidirectional =>
      simp only [QuicConnection.step, openStream]
      split_ifs
      · exact h.refl s
      · exact hconn _
      · exact h.trans (hconn _) (h.resetBuffers _ _)
  | sendStreamData id data fin => exact hqueue id data fin rfl
  | closeStream id errorCode =>
      simp only [QuicConnection.step, closeStream]
      split_ifs
      · exact h.refl s
      · exact h.trans (h.trans (hconn _) (h.afterShutdown _ _ _)) (h.eraseBuffers _ _)
  | stopSending id errorCode =>
      simp only [QuicConnection.step, stopSending]
      split_ifs
      · exact h.refl s
      · exact h.trans (hconn _) (h.afterShutdown _ _ _)
  | resetStream id errorCode =>
      simp only [QuicConnection.step, resetStream]
      split_ifs
      · exact h.refl s
      · exact h.trans (h.trans (hconn _) (h.afterShutdown _ _ _)) (h.eraseBuffers _ _)
  | sendDatagram data =>
      simp only [QuicConnection.step, sendDatagram]
      split_ifs
      · exact h.refl s
      · split
        · exact h.same rfl rfl rfl rfl
        · split_ifs
          · exact h.refl s
          · exact h.same rfl rfl rfl rfl
  | close errorCode reason =>
      simp only [QuicConnection.step, close]
      split_ifs <;> exact h.same rfl rfl rfl rfl
  | nextEvent =>
      simp only [QuicConnection.step, nextEvent]
      split
      · exact h.refl s
      · exact h.same rfl rfl rfl rfl

end Evolves

end Quic
end WebTransport
