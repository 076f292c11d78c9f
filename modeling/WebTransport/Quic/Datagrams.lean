import WebTransport.Data.Dispatch
import WebTransport.Quic.Connection

/-!
# Quic.Datagrams — the datagram queue of a QUIC connection (`quic.cpp`)

`send_datagram` puts a datagram into `datagram_queue_`, and the second loop of `send` offers the front
one to ngtcp2 until a packet is full.  The loop is read here as the source has it, without a bound on
its turns.

* `datagramLoop`           : the condition and the body of the loop;
* `runs_writeDatagrams`    : it ends, after at most one call for each datagram;
* `dispatch_step`          : what one call of the application queues, offers and leaves;
* `dispatch_run`           : and a whole run.
-/

namespace WebTransport
namespace Quic

open Bindings

/-- A call of `ngtcp2_conn_writev_datagram`; `known` tells whether the transport parameters of the
peer were known behind it. -/
structure DatagramCall where
  data : Bytes
  nwrite : Int
  accepted : Bool
  known : Bool
  deriving DecidableEq

namespace DatagramCall

/-- The datagram is in the packet. -/
def taken (call : DatagramCall) : Bool :=
  call.accepted && (decide (0 ≤ call.nwrite) || decide (call.nwrite = errWriteMore))

/-- ngtcp2 will never take the datagram. -/
def refused (call : DatagramCall) : Bool :=
  decide (call.nwrite = errInvalidArgument) ||
    (decide (call.nwrite = errInvalidState) && call.known)

def settled (call : DatagramCall) : Bool := call.taken || call.refused

end DatagramCall

namespace QuicConnection

variable {N : Ngtcp2}

/-! ## The loop -/

/-- The call on the front datagram. -/
def datagramCall (s : QuicConnection N) (now : Nat) : DatagramCall :=
  let (conn, nwrite, accepted, _) :=
    N.writevDatagram s.conn s.path (s.datagramQueue.headD []) now
  ⟨s.datagramQueue.headD [], nwrite, accepted, (N.remoteMaxDatagramFrameSize conn).isSome⟩

/-- The body of the loop: `continue` is on the left. -/
def datagramTurn (now : Nat) (s : QuicConnection N) (moreUsed : Bool) :
    (QuicConnection N × Bool) ⊕ (QuicConnection N × Bool × Option (QuicPacket N.Addr)) :=
  let (conn, nwrite, accepted, packet) :=
    N.writevDatagram s.conn s.path (s.datagramQueue.headD []) now
  let s := { s with conn := conn }
  let popped := { s with datagramQueue := s.datagramQueue.tail }
  if nwrite < 0 then
    if nwrite = errWriteMore then
      if accepted then .inl (popped, true) else .inr (s, moreUsed, none)
    else if nwrite = errInvalidArgument then .inl (popped, moreUsed)
    else if nwrite = errInvalidState ∧ (N.remoteMaxDatagramFrameSize conn).isSome then
      .inl (popped, moreUsed)
    else .inr (s, moreUsed, none)
  else
    let s := if accepted then popped else s
    if 0 < nwrite then
      .inr ({ s with conn := N.updatePktTxTime s.conn now }, moreUsed || accepted, some packet)
    else .inr (s, moreUsed || accepted, none)

/-- `while (!datagram_queue_.empty())` -/
def datagramLoop (N : Ngtcp2) (now : Nat) :
    WhileLoop (QuicConnection N × Bool) DatagramCall
      (QuicConnection N × Bool × Option (QuicPacket N.Addr)) where
  goes := fun (s, _) => !s.datagramQueue.isEmpty
  leave := fun (s, moreUsed) => (s, moreUsed, none)
  turn := fun (s, moreUsed) => (s.datagramCall now, s.datagramTurn now moreUsed)

/-- A turn that goes on took the front datagram off. -/
theorem datagramTurn_queue {s next : QuicConnection N} {now : Nat} {moreUsed more : Bool}
    (h : s.datagramTurn now moreUsed = .inl (next, more)) :
    next.datagramQueue = s.datagramQueue.tail := by
  simp only [datagramTurn] at h
  split_ifs at h <;> cases h <;> rfl

/-- `writeDatagrams` follows the turns. -/
theorem writeDatagrams_turn {s : QuicConnection N} {datagram : Bytes} {datagrams : List Bytes}
    (hqueue : s.datagramQueue = datagram :: datagrams) (now : Nat) (moreUsed : Bool) :
    writeDatagrams now (datagram :: datagrams) s moreUsed =
      match s.datagramTurn now moreUsed with
      | .inl (next, more) => writeDatagrams now datagrams next more
      | .inr e => e := by
  simp only [writeDatagrams, datagramTurn, hqueue, List.headD_cons, List.tail_cons]
  split_ifs <;> rfl

/-- The loop ends, after at most one call for each datagram in the queue. -/
theorem runs_writeDatagrams (now : Nat) (queue : List Bytes) (s : QuicConnection N)
    (moreUsed : Bool) (hqueue : s.datagramQueue = queue) :
    ∃ calls, (datagramLoop N now).Runs (s, moreUsed) calls (writeDatagrams now queue s moreUsed) ∧
      calls.length ≤ queue.length := by
  induction queue generalizing s moreUsed with
  | nil =>
      have hgoes : (datagramLoop N now).goes (s, moreUsed) = false := by
        simp only [datagramLoop, hqueue, List.isEmpty_nil, Bool.not_true]
      exact ⟨[], .exit hgoes, Nat.le_refl 0⟩
  | cons datagram datagrams ih =>
      have hgoes : (datagramLoop N now).goes (s, moreUsed) = true := by
        simp only [datagramLoop, hqueue, List.isEmpty_cons, Bool.not_false]
      rw [writeDatagrams_turn hqueue]
      cases hturn : s.datagramTurn now moreUsed with
      | inr e =>
          exact ⟨[s.datagramCall now], .stop hgoes (congrArg (Prod.mk _) hturn),
            Nat.succ_le_succ (Nat.zero_le _)⟩
      | inl next =>
          have hnext : next.1.datagramQueue = datagrams := by
            rw [datagramTurn_queue hturn, hqueue]
            rfl
          rcases ih next.1 next.2 hnext with ⟨calls, hruns, hlength⟩
          exact ⟨s.datagramCall now :: calls, .again hgoes (congrArg (Prod.mk _) hturn) hruns,
            Nat.succ_le_succ hlength⟩

/-- The calls of the loop from `s`. -/
def datagramCalls (s : QuicConnection N) (now : Nat) (moreUsed : Bool) : List DatagramCall :=
  (datagramLoop N now).record s.datagramQueue.length (s, moreUsed)

theorem runs_datagramCalls (s : QuicConnection N) (now : Nat) (moreUsed : Bool) :
    (datagramLoop N now).Runs (s, moreUsed) (s.datagramCalls now moreUsed)
      (writeDatagrams now s.datagramQueue s moreUsed) := by
  rcases runs_writeDatagrams now s.datagramQueue s moreUsed rfl with ⟨calls, hruns, hlength⟩
  have hrecord : s.datagramCalls now moreUsed = calls := hruns.record_eq hlength
  rw [hrecord]
  exact hruns

/-- Whether the turn settles the front datagram, by its result. -/
theorem settled_datagramCall {s : QuicConnection N} {now : Nat} {conn : N.Conn} {nwrite : Int}
    {accepted : Bool} {packet : QuicPacket N.Addr}
    (hcall : N.writevDatagram s.conn s.path (s.datagramQueue.headD []) now =
      (conn, nwrite, accepted, packet)) :
    (s.datagramCall now).settled =
      (accepted && (decide (0 ≤ nwrite) || decide (nwrite = errWriteMore)) ||
        (decide (nwrite = errInvalidArgument) ||
          (decide (nwrite = errInvalidState) && (N.remoteMaxDatagramFrameSize conn).isSome))) := by
  simp only [datagramCall, hcall, DatagramCall.settled, DatagramCall.taken, DatagramCall.refused]

/-- A turn settles the front datagram exactly if it takes it off. -/
theorem dispatch_turn {s : QuicConnection N} (hqueue : s.datagramQueue ≠ []) (now : Nat)
    (moreUsed : Bool) :
    Dispatch DatagramCall.data DatagramCall.settled s.datagramQueue [] [s.datagramCall now]
      ((s.datagramTurn now moreUsed).elim (·.1.datagramQueue) (·.1.datagramQueue)) := by
  rcases List.exists_cons_of_ne_nil hqueue with ⟨datagram, datagrams, hcons⟩
  have hsettle : (s.datagramCall now).settled = true →
      Dispatch DatagramCall.data DatagramCall.settled s.datagramQueue [] [s.datagramCall now]
        s.datagramQueue.tail := by
    intro hsettled
    have hdispatch : Dispatch DatagramCall.data DatagramCall.settled _ [] [s.datagramCall now]
        s.datagramQueue.tail := Dispatch.settle hsettled _
    have hfront : (s.datagramCall now).data :: s.datagramQueue.tail = s.datagramQueue := by
      rw [hcons]
      exact congrArg (· :: datagrams) (congrArg (List.headD · []) hcons)
    rwa [hfront] at hdispatch
  have hkeep : (s.datagramCall now).settled = false →
      Dispatch DatagramCall.data DatagramCall.settled s.datagramQueue [] [s.datagramCall now]
        s.datagramQueue := fun hsettled => Dispatch.keep hsettled _
  rcases hcall : N.writevDatagram s.conn s.path (s.datagramQueue.headD []) now with
    ⟨conn, nwrite, accepted, packet⟩
  rw [settled_datagramCall hcall] at hsettle hkeep
  have hnonneg : ¬nwrite < 0 → nwrite ≠ errInvalidArgument ∧ nwrite ≠ errInvalidState := by
    unfold errInvalidArgument errInvalidState
    omega
  simp only [datagramTurn, hcall]
  -- the leaves of the body, with the flag and the result that lead to each
  split_ifs with hneg hmore hacc harg hstate hpos hacc hacc
  · exact hsettle (by simp [hmore, hacc])
  · exact hkeep (by simp [hmore, hacc, errWriteMore, errInvalidArgument, errInvalidState])
  · exact hsettle (by simp [harg])
  · exact hsettle (by simp [hstate.1, hstate.2])
  · apply hkeep
    simp only [hmore, harg, Int.not_le.2 hneg, decide_false, Bool.or_self, Bool.and_false,
      Bool.false_or]
    exact Bool.eq_false_iff.2 fun h => hstate (by simpa using h)
  · exact hsettle (by simp [Int.not_lt.1 hneg, hacc])
  · exact hkeep (by simp [hacc, hnonneg hneg])
  · exact hsettle (by simp [Int.not_lt.1 hneg, hacc])
  · exact hkeep (by simp [hacc, hnonneg hneg])

/-- The loop dispatches the queue. -/
theorem dispatch_writeDatagrams (s : QuicConnection N) (now : Nat) (moreUsed : Bool) :
    Dispatch DatagramCall.data DatagramCall.settled s.datagramQueue []
      (s.datagramCalls now moreUsed) (writeDatagrams now s.datagramQueue s moreUsed).1.datagramQueue := by
  refine WhileLoop.Runs.dispatch (fun p => p.1.datagramQueue) (fun e => e.1.datagramQueue)
    (fun _ _ => rfl) ?_ (s.runs_datagramCalls now moreUsed)
  rintro ⟨s, moreUsed⟩ call r hgoes hturn
  have hqueue : s.datagramQueue ≠ [] := by
    intro hnil
    simp only [datagramLoop, hnil, List.isEmpty_nil, Bool.not_true, Bool.false_eq_true] at hgoes
  have hdispatch := dispatch_turn hqueue now moreUsed
  cases hturn
  exact hdispatch

/-! ## The rest leaves the queue as it is -/

theorem queue_onCallbacks (s : QuicConnection N) (callbacks : List (Callback N.Addr)) :
    (callbacks.foldl onCallback s).datagramQueue = s.datagramQueue := by
  induction callbacks generalizing s with
  | nil => rfl
  | cons callback callbacks ih =>
      refine (ih _).trans ?_
      cases callback with
      | ackedStreamDataOffset streamId offset datalen =>
          simp only [onCallback, ackedStreamDataOffsetCb]
          split <;> rfl
      | pathValidation path success reason => cases success <;> rfl
      | tlsEarlyDataRejected =>
          simp only [onCallback]
          split_ifs <;> rfl
      | _ => rfl

theorem queue_writeStream (streamId : Int) (now fuel : Nat) (s : QuicConnection N)
    (moreUsed : Bool) :
    (writeStream streamId now fuel s moreUsed).1.datagramQueue = s.datagramQueue := by
  induction fuel generalizing s moreUsed with
  | zero => rfl
  | succ fuel ih =>
      simp only [writeStream]
      split
      · rfl
      · split_ifs
        · exact ih _ _
        · rfl
        · rfl

theorem queue_writeStreams (now : Nat) (streamIds : List Int) (s : QuicConnection N)
    (moreUsed : Bool) :
    (writeStreams now streamIds s moreUsed).1.datagramQueue = s.datagramQueue := by
  induction streamIds generalizing s moreUsed with
  | nil => rfl
  | cons streamId streamIds ih =>
      have hone := queue_writeStream streamId now (outstanding (s.buffers streamId)) s moreUsed
      simp only [writeStreams]
      split <;> rename_i heq <;> rw [heq] at hone
      · exact hone
      · exact (ih _ _).trans hone

theorem queue_finishSend (s : QuicConnection N) (moreUsed : Bool) (now : Nat) :
    (s.finishSend moreUsed now).1.datagramQueue = s.datagramQueue := by
  simp only [finishSend]
  split_ifs <;> rfl

theorem queue_afterRead (s : QuicConnection N) (saved : Ngtcp2Path N.Addr) (pktRecv : Nat)
    (rv : Int) : (s.afterRead saved pktRecv rv).1.datagramQueue = s.datagramQueue := by
  simp only [afterRead, consumeVerifyError]
  split_ifs <;> first | rfl | (split <;> rfl)

theorem queue_receive (s : QuicConnection N) (datagram : Datagram) (now : Nat) :
    (s.receive datagram now).1.datagramQueue = s.datagramQueue := by
  simp only [receive]
  split_ifs
  · rfl
  · rfl
  · split
    · rfl
    · rename_i moved hpath
      have hmoved : moved.datagramQueue = s.datagramQueue := by
        simp only [updatePathAddresses, Option.bind_eq_bind, Option.bind_eq_some_iff] at hpath
        rcases hpath with ⟨near, -, remote, -, hsome⟩
        cases hsome
        rfl
      exact (queue_afterRead _ _ _ _).trans ((queue_onCallbacks _ _).trans hmoved)

theorem queue_handleTimeout (s : QuicConnection N) (now : Nat) :
    (s.handleTimeout now).datagramQueue = s.datagramQueue := by
  simp only [handleTimeout, afterExpiry]
  split_ifs <;> first | rfl | exact queue_onCallbacks _ _

theorem queue_afterShutdown (s : QuicConnection N) (rv : Int) (text : String) :
    (s.afterShutdown rv text).datagramQueue = s.datagramQueue := by
  unfold afterShutdown
  split_ifs <;> rfl

/-! ## Runs -/

/-- `send_datagram` takes the datagram. -/
def admitsDatagram (s : QuicConnection N) (data : Bytes) : Bool :=
  !s.closed && s.enableDatagram && (N.remoteMaxDatagramFrameSize s.conn).all fun limit =>
    decide (1 + quicVarintLength data.length + data.length ≤ limit)

/-- What a call puts into the queue. -/
def queuedBy (s : QuicConnection N) : Input → List Bytes
  | .sendDatagram data => if s.admitsDatagram data then [data] else []
  | _ => []

/-- The calls of `ngtcp2_conn_writev_datagram` in `sendData`. -/
def offeredBySend (s : QuicConnection N) (now : Nat) : List DatagramCall :=
  match writeStreams now s.streamBuffers.keys { s with timestampNs := now } false with
  | (_, _, some _) => []
  | (s, moreUsed, none) => s.datagramCalls now moreUsed

/-- The calls of `ngtcp2_conn_writev_datagram` that a call makes. -/
def offeredBy (s : QuicConnection N) (now : Nat) : Input → List DatagramCall
  | .send => if s.pendingClosePacket.isSome || s.closed then [] else s.offeredBySend now
  | _ => []

theorem queue_sendDatagram (s : QuicConnection N) (data : Bytes) :
    (s.sendDatagram data).datagramQueue = s.datagramQueue ++ s.queuedBy (.sendDatagram data) := by
  have hnone : s.datagramQueue = s.datagramQueue ++ [] := (List.append_nil _).symm
  simp only [sendDatagram, queuedBy, admitsDatagram, Bool.and_eq_true, Bool.not_eq_true',
    Bool.or_eq_true]
  by_cases hopen : s.closed = true ∨ s.enableDatagram = false
  · have hrefused : ¬((s.closed = false ∧ s.enableDatagram = true) ∧
        (N.remoteMaxDatagramFrameSize s.conn).all (fun limit =>
          decide (1 + quicVarintLength data.length + data.length ≤ limit)) = true) := by
      rintro ⟨⟨hclosed, henabled⟩, -⟩
      rcases hopen with h | h
      · exact absurd (hclosed.symm.trans h) Bool.false_ne_true
      · exact absurd (h.symm.trans henabled) Bool.false_ne_true
    rw [if_pos hopen, if_neg hrefused]
    exact hnone
  · have hadmitted : s.closed = false ∧ s.enableDatagram = true := by simpa using hopen
    rw [if_neg hopen]
    split
    · rename_i hlimit
      rw [if_pos ⟨hadmitted, by rw [hlimit]; rfl⟩]
    · rename_i limit hlimit
      by_cases hfits : 1 + quicVarintLength data.length + data.length > limit
      · rw [if_pos hfits, if_neg]
        · exact hnone
        · rintro ⟨-, hall⟩
          rw [hlimit, Option.all_some, decide_eq_true_eq] at hall
          exact absurd hall (Nat.not_le.2 hfits)
      · rw [if_neg hfits, if_pos]
        refine ⟨hadmitted, ?_⟩
        rw [hlimit, Option.all_some, decide_eq_true_eq]
        exact Nat.not_lt.1 hfits

theorem dispatch_sendData (s : QuicConnection N) (now : Nat) :
    Dispatch DatagramCall.data DatagramCall.settled s.datagramQueue [] (s.offeredBySend now)
      (s.sendData now).1.datagramQueue := by
  have hstreams := queue_writeStreams now s.streamBuffers.keys { s with timestampNs := now } false
  simp only [sendData, offeredBySend]
  rcases hwritten : writeStreams now s.streamBuffers.keys { s with timestampNs := now } false
    with ⟨s₁, moreUsed, packet⟩
  rw [hwritten] at hstreams
  have hqueue : s₁.datagramQueue = s.datagramQueue := hstreams
  cases packet with
  | some packet =>
      simp only [hqueue]
      exact Dispatch.refl _
  | none =>
      have hdispatch := dispatch_writeDatagrams s₁ now moreUsed
      simp only [hqueue] at hdispatch ⊢
      rcases hloop : writeDatagrams now s.datagramQueue s₁ moreUsed with ⟨s₂, moreUsed', packet'⟩
      rw [hloop] at hdispatch
      cases packet' with
      | some packet' => exact hdispatch
      | none =>
          simp only [queue_finishSend]
          exact hdispatch

theorem dispatch_send (s : QuicConnection N) (now : Nat) :
    Dispatch DatagramCall.data DatagramCall.settled s.datagramQueue [] (s.offeredBy now .send)
      (s.send now).1.datagramQueue := by
  simp only [send, offeredBy]
  cases s.pendingClosePacket with
  | some packet =>
      have hsame : (s.sendClose packet now).1.datagramQueue = s.datagramQueue := by
        simp only [sendClose]
        split_ifs <;> rfl
      simp only [Option.isSome_some, Bool.true_or, if_true, hsame]
      exact Dispatch.refl _
  | none =>
      simp only [Option.isSome_none, Bool.false_or]
      split_ifs
      · exact Dispatch.refl _
      · exact s.dispatch_sendData now

/-- What one call of the application queues, offers and leaves. -/
theorem dispatch_step (s : QuicConnection N) (now : Nat) (input : Input) :
    Dispatch DatagramCall.data DatagramCall.settled s.datagramQueue (s.queuedBy input)
      (s.offeredBy now input) (s.step now input).1.datagramQueue := by
  have hsame : ∀ {after : List Bytes}, after = s.datagramQueue →
      Dispatch DatagramCall.data DatagramCall.settled s.datagramQueue [] [] after := by
    intro after hafter
    rw [hafter]
    exact Dispatch.refl _
  cases input with
  | receive datagram => exact hsame (s.queue_receive datagram now)
  | send => exact s.dispatch_send now
  | getTimeoutNs => exact hsame rfl
  | handleTimeout => exact hsame (s.queue_handleTimeout now)
  | openStream bidirectional =>
      apply hsame
      simp only [step, openStream]
      split_ifs <;> rfl
  | sendStreamData streamId data fin =>
      apply hsame
      simp only [step, sendStreamData]
      split_ifs <;> rfl
  | closeStream streamId errorCode =>
      apply hsame
      simp only [step, closeStream]
      split_ifs
      · rfl
      · exact queue_afterShutdown _ _ _
  | stopSending streamId errorCode =>
      apply hsame
      simp only [step, stopSending]
      split_ifs
      · rfl
      · exact queue_afterShutdown _ _ _
  | resetStream streamId errorCode =>
      apply hsame
      simp only [step, resetStream]
      split_ifs
      · rfl
      · exact queue_afterShutdown _ _ _
  | sendDatagram data =>
      have hdispatch : Dispatch DatagramCall.data DatagramCall.settled s.datagramQueue
          (s.queuedBy (.sendDatagram data)) [] _ := Dispatch.enqueue _ _
      rwa [← queue_sendDatagram] at hdispatch
  | close errorCode reason =>
      apply hsame
      simp only [step, close]
      split_ifs <;> rfl
  | nextEvent =>
      apply hsame
      simp only [step, nextEvent]
      split <;> rfl

/-- What a run queues. -/
def queuedIn (s : QuicConnection N) : List (Nat × Input) → List Bytes
  | [] => []
  | (now, input) :: calls => s.queuedBy input ++ (s.step now input).1.queuedIn calls

/-- What a run offers to ngtcp2. -/
def offeredIn (s : QuicConnection N) : List (Nat × Input) → List DatagramCall
  | [] => []
  | (now, input) :: calls => s.offeredBy now input ++ (s.step now input).1.offeredIn calls

/-- A whole run dispatches the queue. -/
theorem dispatch_run (s : QuicConnection N) (calls : List (Nat × Input)) :
    Dispatch DatagramCall.data DatagramCall.settled s.datagramQueue (s.queuedIn calls)
      (s.offeredIn calls) (s.run calls).1.datagramQueue := by
  induction calls generalizing s with
  | nil => exact Dispatch.refl _
  | cons call calls ih => exact (s.dispatch_step call.1 call.2).trans (ih _)

end QuicConnection

end Quic
end WebTransport
