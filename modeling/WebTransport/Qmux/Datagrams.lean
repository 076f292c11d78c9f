import WebTransport.Qmux.Connection
import WebTransport.Quic.Closing
import WebTransport.Quic.Datagrams

/-!
# Qmux.Datagrams — the datagram queues of QUIC and QMux (`quic.cpp`, `qmux.cpp`)

The datagrams of a QMux connection wait in `pending_datagrams_`, as those of a QUIC connection in
`datagram_queue_`.  A received one may come in fragments, which `on_datagram_received` puts together.

* `datagramLoop`      : the loop of `write_pending_datagrams`, at most 64 turns of it;
* `dispatch_run`      : what a run queues, offers and leaves;
* `ReceiveSide`       : the callbacks of dwnx and the buffer of a datagram;
* `datagrams_in_order`: both queues, and the fragments.
-/

namespace WebTransport
namespace Qmux

open Bindings

/-- A call of `dwnx_conn_writev_datagram`; `known` is `remote_transport_params_received_`. -/
structure DatagramCall where
  data : Bytes
  n : Int
  accepted : Bool
  known : Bool
  deriving DecidableEq

namespace DatagramCall

/-- The datagram is in the record. -/
def taken (call : DatagramCall) : Bool :=
  call.accepted && (decide (0 < call.n) || decide (call.n = errWriteMore))

/-- dwnx will never take the datagram. -/
def refused (call : DatagramCall) : Bool :=
  decide (call.n = errInvalidArgument) || (decide (call.n = errInvalidState) && call.known)

def settled (call : DatagramCall) : Bool := call.taken || call.refused

end DatagramCall

namespace QmuxConnection

variable {D : Dwnx}

/-! ## The loop -/

/-- The call on the front datagram. -/
def datagramCall (s : QmuxConnection D) : DatagramCall :=
  let (_, n, accepted, _) := D.writevDatagram s.conn (s.pendingDatagrams.headD [])
  ⟨s.pendingDatagrams.headD [], n, accepted, s.remoteTransportParamsReceived⟩

/-- The body of the loop: `continue` is on the left. -/
def datagramTurn (s : QmuxConnection D) : QmuxConnection D ⊕ (QmuxConnection D × Option Bytes) :=
  let (conn, n, accepted, record) := D.writevDatagram s.conn (s.pendingDatagrams.headD [])
  let s := { s with conn := conn }
  let popped := { s with pendingDatagrams := s.pendingDatagrams.tail }
  if n > 0 then .inr (if accepted then popped else s, some record)
  else if n = errWriteMore then
    if accepted then .inl popped else .inr (s, none)
  else if n = errInvalidArgument then .inl popped
  else if n = errInvalidState then
    if s.remoteTransportParamsReceived then .inl popped else .inr (s, none)
  else .inr (s, none)

/-- `for (int attempt = 0; attempt < 64 && !pending_datagrams_.empty(); ++attempt)`, counted down. -/
def datagramLoop (D : Dwnx) :
    WhileLoop (Nat × QmuxConnection D) DatagramCall (QmuxConnection D × Option Bytes) where
  goes := fun (attempts, s) => attempts != 0 && !s.pendingDatagrams.isEmpty
  leave := fun (_, s) => (s, none)
  turn := fun (attempts, s) => (s.datagramCall, s.datagramTurn.map (Prod.mk (attempts - 1)) id)

/-- `writeDatagramLoop` follows the turns. -/
theorem writeDatagramLoop_turn {s : QmuxConnection D} (hqueue : s.pendingDatagrams ≠ [])
    (attempts : Nat) :
    writeDatagramLoop (attempts + 1) s =
      match s.datagramTurn with
      | .inl next => writeDatagramLoop attempts next
      | .inr e => e := by
  rcases List.exists_cons_of_ne_nil hqueue with ⟨data, rest, hcons⟩
  simp only [writeDatagramLoop, datagramTurn, hcons, List.headD_cons, List.tail_cons]
  split_ifs <;> rfl

/-- The loop ends, after at most `attempts` calls. -/
theorem runs_writeDatagramLoop (attempts : Nat) (s : QmuxConnection D) :
    ∃ calls, (datagramLoop D).Runs (attempts, s) calls (writeDatagramLoop attempts s) ∧
      calls.length ≤ attempts := by
  induction attempts generalizing s with
  | zero => exact ⟨[], .exit rfl, Nat.le_refl 0⟩
  | succ attempts ih =>
      by_cases hqueue : s.pendingDatagrams = []
      · have hgoes : (datagramLoop D).goes (attempts + 1, s) = false := by
          simp only [datagramLoop, hqueue, List.isEmpty_nil, Bool.not_true, Bool.and_false]
        have hleave : writeDatagramLoop (attempts + 1) s = (datagramLoop D).leave (attempts + 1, s) := by
          simp only [writeDatagramLoop, hqueue]
          rfl
        rw [hleave]
        exact ⟨[], .exit hgoes, Nat.zero_le _⟩
      · have hgoes : (datagramLoop D).goes (attempts + 1, s) = true := by
          rcases List.exists_cons_of_ne_nil hqueue with ⟨data, rest, hcons⟩
          simp only [datagramLoop, hcons]
          rfl
        rw [writeDatagramLoop_turn hqueue]
        cases hturn : s.datagramTurn with
        | inr e =>
            have hstop : (datagramLoop D).turn (attempts + 1, s) = (s.datagramCall, .inr e) := by
              simp only [datagramLoop, hturn, Sum.map_inr, id_eq]
            exact ⟨[s.datagramCall], .stop hgoes hstop, Nat.succ_le_succ (Nat.zero_le _)⟩
        | inl next =>
            have hagain : (datagramLoop D).turn (attempts + 1, s) =
                (s.datagramCall, .inl (attempts, next)) := by
              simp only [datagramLoop, hturn, Sum.map_inl, Nat.add_sub_cancel]
            rcases ih next with ⟨calls, hruns, hlength⟩
            exact ⟨s.datagramCall :: calls, .again hgoes hagain hruns, Nat.succ_le_succ hlength⟩

/-- The calls of `write_pending_datagrams`. -/
def datagramCalls (s : QmuxConnection D) : List DatagramCall := (datagramLoop D).record 64 (64, s)

theorem runs_datagramCalls (s : QmuxConnection D) :
    (datagramLoop D).Runs (64, s) s.datagramCalls s.writePendingDatagrams := by
  rcases runs_writeDatagramLoop 64 s with ⟨calls, hruns, hlength⟩
  have hrecord : s.datagramCalls = calls := hruns.record_eq hlength
  rw [hrecord]
  exact hruns

/-- Whether the turn settles the front datagram, by its result. -/
theorem settled_datagramCall {s : QmuxConnection D} {conn : D.Conn} {n : Int} {accepted : Bool}
    {record : Bytes}
    (hcall : D.writevDatagram s.conn (s.pendingDatagrams.headD []) = (conn, n, accepted, record)) :
    s.datagramCall.settled =
      (accepted && (decide (0 < n) || decide (n = errWriteMore)) ||
        (decide (n = errInvalidArgument) ||
          (decide (n = errInvalidState) && s.remoteTransportParamsReceived))) := by
  simp only [datagramCall, hcall, DatagramCall.settled, DatagramCall.taken, DatagramCall.refused]

/-- A turn settles the front datagram exactly if it takes it off. -/
theorem dispatch_turn {s : QmuxConnection D} (hqueue : s.pendingDatagrams ≠ []) :
    Dispatch DatagramCall.data DatagramCall.settled s.pendingDatagrams [] [s.datagramCall]
      (s.datagramTurn.elim (·.pendingDatagrams) (·.1.pendingDatagrams)) := by
  rcases List.exists_cons_of_ne_nil hqueue with ⟨data, rest, hcons⟩
  have hsettle : s.datagramCall.settled = true →
      Dispatch DatagramCall.data DatagramCall.settled s.pendingDatagrams [] [s.datagramCall]
        s.pendingDatagrams.tail := by
    intro hsettled
    have hdispatch : Dispatch DatagramCall.data DatagramCall.settled _ [] [s.datagramCall]
        s.pendingDatagrams.tail := Dispatch.settle hsettled _
    have hfront : s.datagramCall.data :: s.pendingDatagrams.tail = s.pendingDatagrams := by
      rw [hcons]
      exact congrArg (· :: rest) (congrArg (List.headD · []) hcons)
    rwa [hfront] at hdispatch
  have hkeep : s.datagramCall.settled = false →
      Dispatch DatagramCall.data DatagramCall.settled s.pendingDatagrams [] [s.datagramCall]
        s.pendingDatagrams := fun hsettled => Dispatch.keep hsettled _
  rcases hcall : D.writevDatagram s.conn (s.pendingDatagrams.headD []) with
    ⟨conn, n, accepted, record⟩
  rw [settled_datagramCall hcall] at hsettle hkeep
  have hpositive : 0 < n → n ≠ errInvalidArgument ∧ n ≠ errInvalidState ∧ n ≠ errWriteMore := by
    unfold errInvalidArgument errInvalidState errWriteMore
    omega
  simp only [datagramTurn, hcall]
  -- the leaves of the body, with the result and the flag that lead to each
  split_ifs with hpos hacc hmore hacc harg hstate hknown
  · exact hsettle (by simp [hpos, hacc])
  · exact hkeep (by simp [hacc, hpositive hpos])
  · exact hsettle (by simp [hmore, hacc])
  · exact hkeep (by simp [hmore, hacc, errWriteMore, errInvalidArgument, errInvalidState])
  · exact hsettle (by simp [harg])
  · exact hsettle (by simp [hstate, hknown])
  · exact hkeep (by simp [hstate, hknown, errWriteMore, errInvalidArgument, errInvalidState])
  · exact hkeep (by simp [hpos, hmore, harg, hstate])

/-- The loop dispatches the queue. -/
theorem dispatch_writePendingDatagrams (s : QmuxConnection D) :
    Dispatch DatagramCall.data DatagramCall.settled s.pendingDatagrams [] s.datagramCalls
      s.writePendingDatagrams.1.pendingDatagrams := by
  refine WhileLoop.Runs.dispatch (fun p => p.2.pendingDatagrams) (fun e => e.1.pendingDatagrams)
    (fun _ _ => rfl) ?_ s.runs_datagramCalls
  rintro ⟨attempts, s⟩ call r hgoes hturn
  have hqueue : s.pendingDatagrams ≠ [] := by
    intro hnil
    simp only [datagramLoop, hnil, List.isEmpty_nil, Bool.not_true, Bool.and_false,
      Bool.false_eq_true] at hgoes
  cases hturn
  rw [Sum.elim_map]
  exact dispatch_turn hqueue

/-! ## Runs -/

/-- `send_datagram` takes the datagram. -/
def admitsDatagram (s : QmuxConnection D) (data : Bytes) : Bool :=
  !s.closeRequested && s.maxDatagramFrameSize != 0 &&
    decide (datagramFrameLength data.length ≤ defaultMaxRecordSize) &&
    (!s.remoteTransportParamsReceived ||
      decide (datagramFrameLength data.length ≤ s.remoteMaxDatagramFrameSize))

/-- What a call puts into the queue. -/
def queuedBy (s : QmuxConnection D) : Input → List Bytes
  | .sendDatagram data => if s.admitsDatagram data then [data] else []
  | _ => []

/-- The calls of `dwnx_conn_writev_datagram` that a call makes. -/
def offeredBy (s : QmuxConnection D) : Input → List DatagramCall
  | .send =>
      if s.closeRequested then []
      else
        match s.writePendingStreamData with
        | (_, some _) => []
        | (s, none) => s.datagramCalls
  | _ => []

theorem queue_sendDatagram (s : QmuxConnection D) (data : Bytes) :
    (s.sendDatagram data).pendingDatagrams =
      s.pendingDatagrams ++ s.queuedBy (.sendDatagram data) := by
  have hnone : s.pendingDatagrams = s.pendingDatagrams ++ [] := (List.append_nil _).symm
  simp only [queuedBy]
  split_ifs with hadmits
  · have hopen : s.closeRequested = false ∧ s.maxDatagramFrameSize ≠ 0 ∧
        ¬datagramFrameLength data.length > defaultMaxRecordSize ∧
        ¬(s.remoteTransportParamsReceived = true ∧
          datagramFrameLength data.length > s.remoteMaxDatagramFrameSize) := by
      simp only [admitsDatagram, Bool.and_eq_true, Bool.or_eq_true, Bool.not_eq_true', bne_iff_ne,
        decide_eq_true_eq] at hadmits
      rcases hadmits with ⟨⟨⟨hclose, hsize⟩, hrecord⟩, hremote⟩
      refine ⟨hclose, hsize, Nat.not_lt.2 hrecord, ?_⟩
      rintro ⟨hknown, hlarge⟩
      rcases hremote with hunknown | hfits
      · exact absurd (hunknown.symm.trans hknown) Bool.false_ne_true
      · exact absurd hfits (Nat.not_le.2 hlarge)
    rcases hopen with ⟨hclose, hsize, hrecord, hremote⟩
    simp only [sendDatagram, hclose, Bool.false_eq_true, if_false, if_neg hsize, if_neg hrecord,
      if_neg hremote]
  · rw [List.append_nil]
    unfold sendDatagram
    split_ifs with hclose hsize hrecord hremote
    · rfl
    · rfl
    · rfl
    · rfl
    · refine absurd ?_ hadmits
      simp only [admitsDatagram, Bool.and_eq_true, Bool.or_eq_true, Bool.not_eq_true', bne_iff_ne,
        decide_eq_true_eq]
      refine ⟨⟨⟨Bool.eq_false_iff.2 hclose, hsize⟩, Nat.not_lt.1 hrecord⟩, ?_⟩
      by_cases hknown : s.remoteTransportParamsReceived = true
      · exact .inr (Nat.not_lt.1 fun hlarge => hremote ⟨hknown, hlarge⟩)
      · exact .inl (Bool.eq_false_iff.2 hknown)

theorem queue_writeStreamLoop (attempts : Nat) (s : QmuxConnection D) :
    (writeStreamLoop attempts s).1.pendingDatagrams = s.pendingDatagrams := by
  induction attempts generalizing s with
  | zero => rfl
  | succ attempts ih =>
      simp only [writeStreamLoop]
      split_ifs
      · rfl
      · exact ih _
      · rfl

theorem dispatch_send (s : QmuxConnection D) :
    Dispatch DatagramCall.data DatagramCall.settled s.pendingDatagrams [] (s.offeredBy .send)
      s.send.1.pendingDatagrams := by
  simp only [send, offeredBy]
  split_ifs
  · exact Dispatch.refl _
  · have hstreams : s.writePendingStreamData.1.pendingDatagrams = s.pendingDatagrams :=
      queue_writeStreamLoop 64 s
    rcases hwritten : s.writePendingStreamData with ⟨s₁, record⟩
    rw [hwritten] at hstreams
    have hqueue : s₁.pendingDatagrams = s.pendingDatagrams := hstreams
    cases record with
    | some record =>
        rw [← hqueue]
        exact Dispatch.refl _
    | none =>
        have hdispatch := s₁.dispatch_writePendingDatagrams
        rw [hqueue] at hdispatch
        show Dispatch _ _ _ [] s₁.datagramCalls
          (match s₁.writePendingDatagrams with
            | (s, some record) => (s, some record)
            | (s, none) => s.writeRecord).1.pendingDatagrams
        rcases hloop : s₁.writePendingDatagrams with ⟨s₂, record⟩
        rw [hloop] at hdispatch
        cases record <;> exact hdispatch

/-- What one call of the application queues, offers and leaves. -/
theorem dispatch_step (s : QmuxConnection D) (input : Input) :
    Dispatch DatagramCall.data DatagramCall.settled s.pendingDatagrams (s.queuedBy input)
      (s.offeredBy input) (s.step input).pendingDatagrams := by
  have hsame : ∀ {after : List Bytes}, after = s.pendingDatagrams →
      Dispatch DatagramCall.data DatagramCall.settled s.pendingDatagrams [] [] after := by
    intro after hafter
    rw [hafter]
    exact Dispatch.refl _
  have hshutdown : ∀ call streamId errorCode,
      (s.orElse Prod.fst (s.shutdown call streamId errorCode)).pendingDatagrams =
        s.pendingDatagrams := by
    intro call streamId errorCode
    unfold shutdown
    cases checkVarintValue errorCode "QMux error_code" <;> rfl
  cases input with
  | receive data =>
      apply hsame
      simp only [step, receive]
      split <;> rfl
  | send => exact s.dispatch_send
  | sendDatagram data =>
      have hdispatch : Dispatch DatagramCall.data DatagramCall.settled s.pendingDatagrams
          (s.queuedBy (.sendDatagram data)) [] _ := Dispatch.enqueue _ _
      rwa [← queue_sendDatagram] at hdispatch
  | handleTimeout | openStream | sendStreamData => exact hsame rfl
  | resetStream streamId errorCode | stopSending streamId errorCode
  | closeStream streamId errorCode => exact hsame (hshutdown _ _ _)
  | close errorCode reason =>
      apply hsame
      simp only [step, close]
      cases checkVarintValue errorCode "QMux error_code" <;> rfl

/-- What a run queues. -/
def queuedIn (s : QmuxConnection D) : List Input → List Bytes
  | [] => []
  | input :: inputs => s.queuedBy input ++ (s.step input).queuedIn inputs

/-- What a run offers to dwnx. -/
def offeredIn (s : QmuxConnection D) : List Input → List DatagramCall
  | [] => []
  | input :: inputs => s.offeredBy input ++ (s.step input).offeredIn inputs

/-- A whole run dispatches the queue. -/
theorem dispatch_run (s : QmuxConnection D) (inputs : List Input) :
    Dispatch DatagramCall.data DatagramCall.settled s.pendingDatagrams (s.queuedIn inputs)
      (s.offeredIn inputs) (s.run inputs).pendingDatagrams := by
  induction inputs generalizing s with
  | nil => exact Dispatch.refl _
  | cons input inputs ih => exact (s.dispatch_step input).trans (ih _)

end QmuxConnection

/-! ## Receiving -/

/-- `QmuxEventType` -/
inductive QmuxEventType
  | transportParamsReceived
  | streamData
  | streamClosed
  | streamReset
  | stopSending
  | datagramReceived
  deriving DecidableEq

/-- `QmuxEvent` -/
structure QmuxEvent where
  type : QmuxEventType
  streamId : Int := -1
  offset : Nat := 0
  data : Bytes := []
  fin : Bool := false
  errorCode : Nat := 0
  deriving DecidableEq

/-- What dwnx fires while it reads. -/
inductive Callback
  | recvTransportParams
  | recvStreamData (streamId : Int) (offset : Nat) (data : Bytes) (fin : Bool)
  | streamClose (streamId : Int) (rxAppErrorCode : Nat)
  | streamReset (streamId : Int) (appErrorCode : Nat)
  | recvStopSending (streamId : Int) (appErrorCode : Nat)
  | recvDatagram (fin : Bool) (dgramlen offset : Nat) (data : Bytes)
  deriving DecidableEq

def Callback.isRecvDatagram : Callback → Bool
  | .recvDatagram .. => true
  | _ => false

/-- The fragments of a datagram of `dgramlen` bytes from `offset` on, as dwnx delivers them. -/
def fragmentCallbacks (dgramlen : Nat) : Nat → List Bytes → List Callback
  | _, [] => []
  | offset, [data] => [.recvDatagram true dgramlen offset data]
  | offset, data :: rest =>
      .recvDatagram false dgramlen offset data ::
        fragmentCallbacks dgramlen (offset + data.length) rest

/-- `QmuxConnection`, the receive side; `events` holds all events pushed so far. -/
structure ReceiveSide where
  datagramBuffer : Bytes := []
  events : List QmuxEvent := []
  deriving DecidableEq

namespace ReceiveSide

/-- `push_event` -/
def pushEvent (s : ReceiveSide) (event : QmuxEvent) : ReceiveSide :=
  { s with events := s.events ++ [event] }

/-- `on_datagram_received` -/
def onDatagramReceived (s : ReceiveSide) (fin : Bool) (dgramlen offset : Nat) (data : Bytes) :
    ReceiveSide :=
  let buffer := (if offset = 0 then [] else s.datagramBuffer) ++ data
  if !fin then { s with datagramBuffer := buffer }
  else if buffer.length ≠ dgramlen then { s with datagramBuffer := [] }
  else { s with datagramBuffer := [] }.pushEvent { type := .datagramReceived, data := buffer }

/-- What the callbacks do. -/
def onCallback (s : ReceiveSide) : Callback → ReceiveSide
  | .recvTransportParams => s.pushEvent { type := .transportParamsReceived }
  | .recvStreamData streamId offset data fin =>
      s.pushEvent { type := .streamData, streamId := streamId, offset := offset, data := data,
                    fin := fin }
  | .streamClose streamId rxAppErrorCode =>
      s.pushEvent { type := .streamClosed, streamId := streamId, errorCode := rxAppErrorCode }
  | .streamReset streamId appErrorCode =>
      s.pushEvent { type := .streamReset, streamId := streamId, errorCode := appErrorCode }
  | .recvStopSending streamId appErrorCode =>
      s.pushEvent { type := .stopSending, streamId := streamId, errorCode := appErrorCode }
  | .recvDatagram fin dgramlen offset data => s.onDatagramReceived fin dgramlen offset data

/-- The datagrams of the events. -/
def datagrams (s : ReceiveSide) : List Bytes :=
  (s.events.filter fun event => event.type = .datagramReceived).map (·.data)

/-- What a callback does to the buffer and the datagrams. -/
def assemble (p : Bytes × List Bytes) : Callback → Bytes × List Bytes
  | .recvDatagram fin dgramlen offset data =>
      let buffer := (if offset = 0 then [] else p.1) ++ data
      if !fin then (buffer, p.2)
      else if buffer.length ≠ dgramlen then ([], p.2)
      else ([], p.2 ++ [buffer])
  | _ => p

theorem datagrams_pushEvent (s : ReceiveSide) (event : QmuxEvent) :
    (s.pushEvent event).datagrams =
      s.datagrams ++ if event.type = .datagramReceived then [event.data] else [] := by
  simp only [datagrams, pushEvent, List.filter_append, List.map_append]
  congr 1
  by_cases htype : event.type = .datagramReceived
  · simp only [List.filter_cons, htype, decide_true, if_true, List.filter_nil, List.map_cons,
      List.map_nil]
  · simp only [List.filter_cons, htype, decide_false, Bool.false_eq_true, if_false, List.filter_nil,
      List.map_nil]

theorem onCallback_assemble (s : ReceiveSide) (callback : Callback) :
    ((s.onCallback callback).datagramBuffer, (s.onCallback callback).datagrams) =
      assemble (s.datagramBuffer, s.datagrams) callback := by
  have hother : ∀ event : QmuxEvent, event.type ≠ .datagramReceived →
      ((s.pushEvent event).datagramBuffer, (s.pushEvent event).datagrams) =
        (s.datagramBuffer, s.datagrams) := by
    intro event htype
    rw [datagrams_pushEvent, if_neg htype, List.append_nil]
    rfl
  cases callback with
  | recvDatagram fin dgramlen offset data =>
      simp only [onCallback, onDatagramReceived, assemble]
      split_ifs <;> first | rfl | (rw [datagrams_pushEvent, if_pos rfl]; rfl)
  | _ => exact hother _ nofun

/-- The other callbacks do not matter. -/
theorem onCallbacks_assemble (s : ReceiveSide) (callbacks : List Callback) :
    ((callbacks.foldl onCallback s).datagramBuffer, (callbacks.foldl onCallback s).datagrams) =
      (callbacks.filter Callback.isRecvDatagram).foldl assemble (s.datagramBuffer, s.datagrams) := by
  induction callbacks generalizing s with
  | nil => rfl
  | cons callback callbacks ih =>
      rw [List.foldl_cons, ih, onCallback_assemble]
      cases callback with
      | recvDatagram fin dgramlen offset data => rfl
      | _ => rfl

/-- The fragments of one datagram: `front` is what came in front of them. -/
theorem assemble_fragments (buffer front : Bytes) (pushed : List Bytes) (fragments : List Bytes)
    (hne : fragments ≠ []) (hfront : (if front.length = 0 then [] else buffer) = front) :
    (fragmentCallbacks (front ++ fragments.flatten).length front.length fragments).foldl assemble
      (buffer, pushed) = ([], pushed ++ [front ++ fragments.flatten]) := by
  induction fragments generalizing buffer front with
  | nil => exact absurd rfl hne
  | cons data rest ih =>
      cases rest with
      | nil =>
          have hall : front ++ [data].flatten = front ++ data := by
            rw [List.flatten_cons, List.flatten_nil, List.append_nil]
          simp only [fragmentCallbacks, List.foldl_cons, List.foldl_nil, assemble, hfront, hall,
            Bool.not_true, Bool.false_eq_true, if_false, ne_eq, not_true_eq_false]
      | cons next rest =>
          have hall : front ++ (data :: next :: rest).flatten =
              (front ++ data) ++ (next :: rest).flatten := by
            rw [List.flatten_cons, List.append_assoc]
          have hbuffer : (if (front ++ data).length = 0 then [] else front ++ data) = front ++ data := by
            split_ifs with hzero
            · exact (List.length_eq_zero_iff.1 hzero).symm
            · rfl
          have hlength : (front ++ data).length = front.length + data.length := List.length_append
          have hrest := ih (front ++ data) (front ++ data) (List.cons_ne_nil _ _) hbuffer
          rw [hlength] at hrest
          rw [hall]
          simp only [fragmentCallbacks, List.foldl_cons, assemble, hfront, Bool.not_false, if_true]
          exact hrest

/-- Datagrams that come in fragments are pushed whole, in order, and nothing else is. -/
theorem datagrams_onCallbacks (s : ReceiveSide) (callbacks : List Callback)
    (fragments : List (List Bytes)) (hne : ∀ f ∈ fragments, f ≠ [])
    (hcallbacks : callbacks.filter Callback.isRecvDatagram =
      fragments.flatMap fun f => fragmentCallbacks f.flatten.length 0 f) :
    (callbacks.foldl onCallback s).datagrams = s.datagrams ++ fragments.map List.flatten := by
  have hfold : ∀ buffer pushed, ((fragments.flatMap fun f =>
      fragmentCallbacks f.flatten.length 0 f).foldl assemble (buffer, pushed)).2 =
        pushed ++ fragments.map List.flatten := by
    clear hcallbacks
    induction fragments with
    | nil =>
        intro buffer pushed
        exact (List.append_nil pushed).symm
    | cons f fragments ih =>
        intro buffer pushed
        have hone := assemble_fragments buffer [] pushed f (hne f List.mem_cons_self) rfl
        have hrest := ih fun f hf => hne f (List.mem_cons_of_mem _ hf)
        rw [List.flatMap_cons, List.foldl_append]
        simp only [List.nil_append, List.length_nil] at hone
        rw [hone, hrest, List.map_cons, List.append_assoc]
        rfl
  have hview := congrArg Prod.snd (s.onCallbacks_assemble callbacks)
  rw [hcallbacks, hfold] at hview
  exact hview

end ReceiveSide

/-! ## Both queues -/

/-- Both queues are served in their order: the calls settle the datagrams that were queued one after
the other, those that were taken are among them in order, and the rest still waits.  Only a datagram
that fits the limits known at that moment is queued, and both loops end.  The fragments of a received
datagram make up one event. -/
theorem datagrams_in_order (N : Quic.Ngtcp2) (D : Dwnx) :
    (∀ conn path enableDatagram earlyDataAttempted (calls : List (Nat × Quic.QuicConnection.Input)),
      let s : Quic.QuicConnection N := .create conn path enableDatagram earlyDataAttempted
      Dispatch Quic.DatagramCall.data Quic.DatagramCall.settled [] (s.queuedIn calls)
          (s.offeredIn calls) (s.run calls).1.datagramQueue ∧
        List.Sublist (((s.offeredIn calls).filter (·.taken)).map (·.data)) (s.queuedIn calls)) ∧
    (∀ (s : Quic.QuicConnection N) data,
      (s.sendDatagram data).datagramQueue = s.datagramQueue ++ s.queuedBy (.sendDatagram data) ∧
      ∀ limit, N.remoteMaxDatagramFrameSize s.conn = some limit →
        data ∈ s.queuedBy (.sendDatagram data) →
          1 + quicVarintLength data.length + data.length ≤ limit) ∧
    (∀ (s : Quic.QuicConnection N) now moreUsed,
      (Quic.QuicConnection.datagramLoop N now).Runs (s, moreUsed) (s.datagramCalls now moreUsed)
        (Quic.QuicConnection.writeDatagrams now s.datagramQueue s moreUsed)) ∧
    (∀ conn maxDatagramFrameSize (inputs : List QmuxConnection.Input),
      let s : QmuxConnection D := .create conn maxDatagramFrameSize
      Dispatch DatagramCall.data DatagramCall.settled [] (s.queuedIn inputs) (s.offeredIn inputs)
          (s.run inputs).pendingDatagrams ∧
        List.Sublist (((s.offeredIn inputs).filter (·.taken)).map (·.data)) (s.queuedIn inputs)) ∧
    (∀ (s : QmuxConnection D) data,
      (s.sendDatagram data).pendingDatagrams =
        s.pendingDatagrams ++ s.queuedBy (.sendDatagram data) ∧
      (data ∈ s.queuedBy (.sendDatagram data) →
        1 + quicVarintLength data.length + data.length ≤ 16382 ∧
        (s.remoteTransportParamsReceived = true →
          1 + quicVarintLength data.length + data.length ≤ s.remoteMaxDatagramFrameSize))) ∧
    (∀ s : QmuxConnection D,
      (QmuxConnection.datagramLoop D).Runs (64, s) s.datagramCalls s.writePendingDatagrams) ∧
    ∀ (s : ReceiveSide) (callbacks : List Callback) (fragments : List (List Bytes)),
      (∀ f ∈ fragments, f ≠ []) →
      callbacks.filter Callback.isRecvDatagram =
        fragments.flatMap (fun f => fragmentCallbacks f.flatten.length 0 f) →
      (callbacks.foldl ReceiveSide.onCallback s).datagrams =
        s.datagrams ++ fragments.map List.flatten := by
  refine ⟨?_, ?_, ?_, ?_, ?_, ?_, ?_⟩
  · intro conn path enableDatagram earlyDataAttempted calls s
    have hrun := s.dispatch_run calls
    exact ⟨hrun, hrun.taken fun call _ htaken => by
      rw [Quic.DatagramCall.settled, htaken, Bool.true_or]⟩
  · intro s data
    refine ⟨s.queue_sendDatagram data, fun limit hlimit hmem => ?_⟩
    have hadmits : s.admitsDatagram data = true := by
      by_contra hrefused
      simp only [Quic.QuicConnection.queuedBy, hrefused, if_false,
        List.not_mem_nil] at hmem
    simp only [Quic.QuicConnection.admitsDatagram, hlimit, Option.all_some, Bool.and_eq_true,
      decide_eq_true_eq] at hadmits
    exact hadmits.2
  · exact fun s now moreUsed => s.runs_datagramCalls now moreUsed
  · intro conn maxDatagramFrameSize inputs s
    have hrun := s.dispatch_run inputs
    exact ⟨hrun, hrun.taken fun call _ htaken => by
      rw [DatagramCall.settled, htaken, Bool.true_or]⟩
  · intro s data
    refine ⟨s.queue_sendDatagram data, fun hmem => ?_⟩
    have hadmits : s.admitsDatagram data = true := by
      by_contra hrefused
      simp only [QmuxConnection.queuedBy, hrefused, if_false,
        List.not_mem_nil] at hmem
    simp only [QmuxConnection.admitsDatagram, Bool.and_eq_true, Bool.or_eq_true,
      Bool.not_eq_true', decide_eq_true_eq] at hadmits
    refine ⟨hadmits.1.2, fun hknown => hadmits.2.resolve_left fun hunknown => ?_⟩
    exact Bool.false_ne_true (hunknown.symm.trans hknown)
  · exact fun s => s.runs_datagramCalls
  · exact fun s callbacks fragments => s.datagrams_onCallbacks callbacks fragments

/-- dwnx that sets the flag whatever it returns. -/
def flagged : Dwnx where
  Conn := Int
  writevStream n _ := (n, 0, -1, [])
  writevDatagram n _ := (n, n, true, [])
  writeRecord n := (n, 0, [])
  writeConnectionClose n _ _ := (n, 0, [])
  read n _ := (n, 0, none)
  handleExpiry n := n
  openStream n _ := (n, 0, 0)
  shutdownStreamWrite n _ _ := (n, 0)
  shutdownStreamRead n _ _ := (n, 0)
  shutdownStream n _ _ := (n, 0)

/-- Datagrams at the limit of the peer are queued, and fragments make up one event. -/
theorem datagrams_in_order_small :
    (1 + quicVarintLength 2 + 2 ≤ 4) ∧ (1 + quicVarintLength 2 + 2 ≤ 16382) ∧
      (1 + quicVarintLength 2 + 2 ≤ 4) ∧
      (([.recvDatagram false 3 0 [1, 2], .recvStreamData 0 0 [9] true, .recvDatagram true 3 2 [3],
          .recvDatagram true 1 0 [4]] : List Callback).foldl ReceiveSide.onCallback {}).datagrams =
        [[1, 2, 3], [4]] := by
  let N : Quic.Ngtcp2 :=
    { Quic.idle with remoteMaxDatagramFrameSize := fun _ => some 4 }
  let quic : Quic.QuicConnection N := .create false ⟨(1 : Nat), (2 : Nat)⟩ true false
  let qmux : QmuxConnection flagged :=
    { QmuxConnection.create (D := flagged) (0 : Int) 1200 with
        remoteTransportParamsReceived := true, remoteMaxDatagramFrameSize := 4 }
  rcases datagrams_in_order N flagged with ⟨-, hquic, -, -, hqmux, -, hreceive⟩
  refine ⟨(hquic quic [7, 8]).2 4 rfl (by decide), ((hqmux qmux [7, 8]).2 (by decide)).1,
    ((hqmux qmux [7, 8]).2 (by decide)).2 rfl, ?_⟩
  exact hreceive {} _ [[[1, 2], [3]], [[4]]] (by decide) (by decide)

/-- With an error the flag does not count: the datagram stays in front and is offered again. -/
theorem flagged_error_repeats :
    ¬ ∀ (D : Dwnx) conn maxDatagramFrameSize inputs,
      let s : QmuxConnection D := .create conn maxDatagramFrameSize
      List.Sublist (((s.offeredIn inputs).filter (·.accepted)).map (·.data)) (s.queuedIn inputs) := by
  intro hall
  have hsub := hall flagged (-500 : Int) 1200 [.sendDatagram [7], .send, .send]
  exact absurd hsub.length_le (by decide)

end Qmux
end WebTransport
