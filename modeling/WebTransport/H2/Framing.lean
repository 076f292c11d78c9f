import Mathlib.Tactic.Simps.Basic
import WebTransport.H2.Received

/-!
# H2.Framing — the capsule loop does not depend on how DATA is cut up

`process_capsules` keeps an unfinished capsule in `capsule_buffer` and looks the session up again
after every handler.  No handler reads or writes the buffer (`BufferBlind`), nor what was done
before it, so a handler commutes with replacing both (`frame`).  From that:

* `processCapsules_append`  : two calls in a row are one call on the joined bytes;
* `processCapsules_chunks`  : any number of calls is one call;
* `processCapsules_encoded` : encoded capsules are dispatched as they were, in order.
-/

namespace WebTransport
namespace H2

open Bindings

namespace WtSessionInfo

/-- The session entry with another `capsule_buffer`. -/
@[simps]
def withBuffer (w : WtSessionInfo) (buffer : Bytes) : WtSessionInfo :=
  { w with capsuleBuffer := buffer }

/-- An operation that neither reads nor writes `capsule_buffer`. -/
def BufferBlind (f : WtSessionInfo → Queued) : Prop :=
  ∀ w buffer, f (w.withBuffer buffer) = ((f w).1.withBuffer buffer, (f w).2)

namespace BufferBlind

theorem andThen {f g : WtSessionInfo → Queued} (hf : BufferBlind f) (hg : BufferBlind g) :
    BufferBlind fun w => (f w).andThen g := by
  intro w buffer
  simp only [Queued.andThen, hf w buffer, hg (f w).1 buffer]

theorem maybeSendMaxData (config : H2SessionConfig) :
    BufferBlind (WtSessionInfo.maybeSendMaxData config) := by
  intro w buffer
  unfold WtSessionInfo.maybeSendMaxData
  simp only [withBuffer_isTerminated, withBuffer_bytesReceived, withBuffer_maxDataRemote]
  split_ifs <;> rfl

theorem maybeSendMaxStreamData (config : H2SessionConfig) (streamId : Nat) :
    BufferBlind (WtSessionInfo.maybeSendMaxStreamData config streamId) := by
  intro w buffer
  unfold WtSessionInfo.maybeSendMaxStreamData
  simp only [withBuffer_isTerminated, withBuffer_sentStopSendingStreamIds, withBuffer_streams]
  cases w.streams.find? streamId with
  | none => split_ifs <;> rfl
  | some info =>
      dsimp only
      split_ifs <;> rfl

theorem replenishStreams (isUni : Bool) : BufferBlind (WtSessionInfo.replenishStreams isUni) := by
  intro w buffer
  unfold WtSessionInfo.replenishStreams
  simp only [withBuffer_maxStreamsUniRemote, withBuffer_maxStreamsBidiRemote]
  split_ifs <;> rfl

theorem maybeReleaseStream (streamId : Nat) :
    BufferBlind (WtSessionInfo.maybeReleaseStream streamId) := by
  intro w buffer
  unfold WtSessionInfo.maybeReleaseStream
  simp only [withBuffer_streams]
  cases w.streams.find? streamId with
  | none => rfl
  | some info =>
      dsimp only
      split_ifs
      · rfl
      · exact replenishStreams info.isUnidirectional (w.dropStream streamId info) buffer
      · rfl

theorem finishRecv (streamId : Nat) : BufferBlind (WtSessionInfo.finishRecv streamId) := by
  intro w buffer
  unfold WtSessionInfo.finishRecv
  simp only [withBuffer_streams]
  cases w.streams.find? streamId with
  | none => rfl
  | some info =>
      exact maybeReleaseStream streamId (w.setStream streamId { info with recvState := .dataRecvd })
        buffer

theorem acceptStreamData (config : H2SessionConfig) (streamId : Nat) (info : WtStreamInfo)
    (fin : Bool) (size : Nat) :
    BufferBlind (WtSessionInfo.acceptStreamData config streamId info fin size) := by
  intro w buffer
  have hrepl := (maybeSendMaxData config).andThen (maybeSendMaxStreamData config streamId)
  cases fin with
  | false => exact hrepl (w.countReceived streamId info size) buffer
  | true => exact hrepl.andThen (finishRecv streamId) (w.countReceived streamId info size) buffer

theorem flushStream (streamId : Nat) : BufferBlind (WtSessionInfo.flushStream streamId) := by
  intro w buffer
  unfold WtSessionInfo.flushStream
  simp only [withBuffer_streams]
  cases w.streams.find? streamId with
  | none => rfl
  | some info =>
      have hloop : (w.withBuffer buffer).runFlushLoop streamId info =
          w.runFlushLoop streamId info := rfl
      dsimp only
      rw [hloop]
      split_ifs
      · rfl
      · simp only [Queued.andThen]
        have h := maybeReleaseStream streamId
          (w.afterFlush streamId info (w.runFlushLoop streamId info)) buffer
        rw [show (w.withBuffer buffer).afterFlush streamId info (w.runFlushLoop streamId info) =
          (w.afterFlush streamId info (w.runFlushLoop streamId info)).withBuffer buffer from rfl, h]
      · rfl

theorem flushWalk (ids : List Nat) : BufferBlind (WtSessionInfo.flushWalk ids) := by
  induction ids with
  | nil => exact fun _ _ => rfl
  | cons streamId rest ih => exact (flushStream streamId).andThen ih

theorem flushRounds (fuel : Nat) : BufferBlind (WtSessionInfo.flushRounds fuel) := by
  induction fuel with
  | zero => exact fun _ _ => rfl
  | succ fuel ih =>
      intro w buffer
      have hwalk := flushWalk w.streams.keys w buffer
      have hnext := ih (WtSessionInfo.flushWalk w.streams.keys w).1 buffer
      simp only [WtSessionInfo.flushRounds, withBuffer_streams, hwalk, Queued.andThen, hnext]
      split_ifs <;> rfl

theorem flushPendingSends : BufferBlind WtSessionInfo.flushPendingSends := by
  intro w buffer
  unfold WtSessionInfo.flushPendingSends
  simp only [withBuffer_isTerminated]
  split_ifs
  · rfl
  · exact flushRounds (w.pendingBytes + 1) w buffer

theorem resetStream (streamId errorCode : Nat) :
    BufferBlind (WtSessionInfo.resetStream streamId errorCode) := by
  intro w buffer
  unfold WtSessionInfo.resetStream
  simp only [withBuffer_isTerminated, withBuffer_streams]
  cases w.streams.find? streamId with
  | none => split_ifs <;> rfl
  | some info =>
      have h := maybeReleaseStream streamId
        (w.setStream streamId { info with sendState := .resetSent, pendingSends := [] }) buffer
      dsimp only [Queued.andThen]
      rw [show (w.withBuffer buffer).setStream streamId
          { info with sendState := .resetSent, pendingSends := [] } =
        (w.setStream streamId { info with sendState := .resetSent, pendingSends := [] }).withBuffer
          buffer from rfl, h]
      split_ifs <;> rfl

end BufferBlind

end WtSessionInfo

namespace SessionScope

open WtSessionInfo

/-! ## Handlers and the frame around them -/

/-- The scope with other earlier effects in front and another `capsule_buffer`. -/
def frame (before : List Effect) (buffer : Bytes) (sc : SessionScope) : SessionScope :=
  { sc with
    entry := sc.entry.map fun w => w.withBuffer buffer
    effects := before ++ sc.effects }

variable (before : List Effect) (buffer : Bytes) (sc : SessionScope) (w : WtSessionInfo)

theorem perform_frame (e : Effect) :
    (sc.frame before buffer).perform e = (sc.perform e).frame before buffer := by
  simp only [perform, frame, List.append_assoc]

theorem pushEvent_frame (e : H2Event) :
    (sc.frame before buffer).pushEvent e = (sc.pushEvent e).frame before buffer :=
  perform_frame before buffer sc _

theorem setEntry_frame :
    (sc.frame before buffer).setEntry (w.withBuffer buffer) =
      (sc.setEntry w).frame before buffer := rfl

theorem store_frame (q : Queued) :
    (sc.frame before buffer).store (q.1.withBuffer buffer, q.2) =
      (sc.store q).frame before buffer := by
  simp only [store, frame, List.append_assoc, Option.map_some]

/-- Storing the outcome of an operation that does not look at the buffer. -/
theorem store_blind {f : WtSessionInfo → Queued} (hf : BufferBlind f) :
    (sc.frame before buffer).store (f (w.withBuffer buffer)) =
      (sc.store (f w)).frame before buffer := by
  rw [hf w buffer, store_frame]

theorem onEntry_frame {f : WtSessionInfo → Queued} (hf : BufferBlind f) :
    (sc.frame before buffer).onEntry f = (sc.onEntry f).frame before buffer := by
  cases h : sc.entry with
  | none => simp only [onEntry, frame, h, Option.map_none]
  | some w =>
      have hentry : (sc.frame before buffer).entry = some (w.withBuffer buffer) := by
        simp only [frame, h, Option.map_some]
      simp only [onEntry, hentry, h]
      exact store_blind before buffer sc w hf

theorem closeSession_frame (errorCode : Nat) (message : Bytes) :
    (sc.frame before buffer).closeSession errorCode message =
      (sc.closeSession errorCode message).frame before buffer := by
  cases h : sc.entry with
  | none => simp only [closeSession, frame, h, Option.map_none]
  | some w =>
      have hentry : (sc.frame before buffer).entry = some (w.withBuffer buffer) := by
        simp only [frame, h, Option.map_some]
      simp only [closeSession, hentry, h, withBuffer_isTerminated]
      split_ifs
      · rfl
      · simp only [frame, List.append_assoc, Option.map_some]
        rfl

theorem resetStreamForMalformedCapsule_frame :
    (sc.frame before buffer).resetStreamForMalformedCapsule =
      sc.resetStreamForMalformedCapsule.frame before buffer := by
  simp only [resetStreamForMalformedCapsule, frame, List.append_assoc, Option.map_map]
  rfl

theorem reportStreamStateError_frame (streamId : Nat) (message : String) :
    (sc.frame before buffer).reportStreamStateError streamId message =
      (sc.reportStreamStateError streamId message).frame before buffer := by
  simp only [reportStreamStateError, pushEvent_frame, closeSession_frame]

theorem reportFlowControlError_frame (message : String) :
    (sc.frame before buffer).reportFlowControlError message =
      (sc.reportFlowControlError message).frame before buffer :=
  closeSession_frame before buffer sc _ _

theorem reportRecvFlowControlError_frame (streamId : Nat) (message : String) :
    (sc.frame before buffer).reportRecvFlowControlError streamId message =
      (sc.reportRecvFlowControlError streamId message).frame before buffer := by
  simp only [reportRecvFlowControlError, pushEvent_frame, reportFlowControlError_frame]

theorem reportWtError_frame (message : String) :
    (sc.frame before buffer).reportWtError message =
      (sc.reportWtError message).frame before buffer := by
  simp only [reportWtError, pushEvent_frame, closeSession_frame]

theorem eraseSession_frame :
    (sc.frame before buffer).eraseSession = sc.eraseSession.frame before buffer := by
  simp only [eraseSession, frame, List.append_assoc, Option.map_none]

theorem recvStreamData_frame (info : WtStreamInfo) (streamId : Nat) (fin : Bool) (data : Bytes) :
    (sc.frame before buffer).recvStreamData (w.withBuffer buffer) info streamId fin data =
      (sc.recvStreamData w info streamId fin data).frame before buffer := by
  unfold recvStreamData
  simp only [withBuffer_bytesReceived, withBuffer_maxDataRemote, setEntry_frame,
    reportStreamStateError_frame, reportRecvFlowControlError_frame, pushEvent_frame]
  split_ifs
  · rfl
  · rfl
  · exact store_blind before buffer (sc.pushEvent _) w (BufferBlind.acceptStreamData _ _ _ _ _)
  · exact store_blind before buffer sc w (BufferBlind.acceptStreamData _ _ _ _ _)

theorem receiveStream_frame (fin : Bool) (streamId : Nat) (data : Bytes) :
    (sc.frame before buffer).receiveStream (w.withBuffer buffer) fin streamId data =
      (sc.receiveStream w fin streamId data).frame before buffer := by
  unfold receiveStream
  simp only [withBuffer_streams, withBuffer_releasedStreamIds, reportStreamStateError_frame,
    reportRecvFlowControlError_frame, show (sc.frame before buffer).isServer = sc.isServer from rfl]
  cases w.streams.find? streamId with
  | some info =>
      dsimp only
      rw [recvStreamData_frame]
      split_ifs <;> rfl
  | none =>
      dsimp only
      have hnew := recvStreamData_frame before buffer sc
        (w.setStream streamId (w.newPeerStream sc.config sc.isServer streamId))
        (w.newPeerStream sc.config sc.isServer streamId) streamId fin data
      have hlimit : (w.withBuffer buffer).incomingStreamExceedsLimit streamId =
          w.incomingStreamExceedsLimit streamId := rfl
      rw [hlimit]
      split_ifs
      · rfl
      · rfl
      · rfl
      · rfl
      · exact hnew

theorem recvReset_frame (streamId errorCode reliableSize : Nat) :
    (sc.frame before buffer).recvReset (w.withBuffer buffer) streamId errorCode reliableSize =
      (sc.recvReset w streamId errorCode reliableSize).frame before buffer := by
  unfold recvReset
  simp only [withBuffer_streams, withBuffer_releasedStreamIds, reportStreamStateError_frame,
    reportRecvFlowControlError_frame, pushEvent_frame,
    show (sc.frame before buffer).isServer = sc.isServer from rfl,
    show (sc.frame before buffer).config = sc.config from rfl]
  cases w.streams.find? streamId with
  | none =>
      dsimp only
      have hlimit : (w.withBuffer buffer).incomingStreamExceedsLimit streamId =
          w.incomingStreamExceedsLimit streamId := rfl
      have hstore := fun info e => store_blind before buffer (sc.pushEvent e)
        (w.setStream streamId info) (BufferBlind.maybeReleaseStream streamId)
      rw [hlimit]
      split_ifs
      · rfl
      · rfl
      · rfl
      · rfl
      · exact hstore _ _
  | some info =>
      dsimp only
      have hstore := store_blind before buffer sc
        (w.setStream streamId { info with recvState := .resetRecvd })
        (BufferBlind.maybeReleaseStream streamId)
      rw [show (w.withBuffer buffer).setStream streamId { info with recvState := .resetRecvd } =
        (w.setStream streamId { info with recvState := .resetRecvd }).withBuffer buffer from rfl,
        hstore, pushEvent_frame]
      split_ifs <;> rfl

theorem recvStopSending_frame (streamId errorCode : Nat) :
    (sc.frame before buffer).recvStopSending (w.withBuffer buffer) streamId errorCode =
      (sc.recvStopSending w streamId errorCode).frame before buffer := by
  have hreceived : (w.withBuffer buffer).hasReceivedStopSending streamId =
      w.hasReceivedStopSending streamId := rfl
  have hrecord : (w.withBuffer buffer).recordStopSending streamId =
      (w.recordStopSending streamId).withBuffer buffer := rfl
  unfold recvStopSending
  simp only [hreceived, hrecord, withBuffer_streams, withBuffer_receivedStopSendingStreamIds,
    reportStreamStateError_frame, setEntry_frame, pushEvent_frame]
  cases (w.recordStopSending streamId).streams.find? streamId with
  | none =>
      dsimp only
      split_ifs <;> rfl
  | some info =>
      have hset := setEntry_frame before buffer sc ((w.recordStopSending streamId).setStream
        streamId { info with stopSendingReceived := true })
      dsimp only
      split_ifs
      · rfl
      · rw [← onEntry_frame _ _ _ (BufferBlind.resetStream streamId errorCode), ← pushEvent_frame,
          ← hset]
        rfl

theorem recvMaxData_frame (maxData : Nat) :
    (sc.frame before buffer).recvMaxData (w.withBuffer buffer) maxData =
      (sc.recvMaxData w maxData).frame before buffer := by
  unfold recvMaxData
  simp only [withBuffer_receivedMaxData, withBuffer_maxDataLocal, reportFlowControlError_frame]
  split_ifs
  · rfl
  · exact store_blind before buffer sc ({ w with receivedMaxData := some maxData }.raiseMaxData maxData)
      BufferBlind.flushPendingSends
  · rfl

theorem recvMaxStreamData_frame (streamId maxData : Nat) :
    (sc.frame before buffer).recvMaxStreamData (w.withBuffer buffer) streamId maxData =
      (sc.recvMaxStreamData w streamId maxData).frame before buffer := by
  have hreceived : (w.withBuffer buffer).hasReceivedStopSending streamId =
      w.hasReceivedStopSending streamId := rfl
  have hprevious : previousMaxStreamData sc.isServer (w.withBuffer buffer) streamId =
      previousMaxStreamData sc.isServer w streamId := rfl
  have hrecord : (w.withBuffer buffer).recordMaxStreamData streamId maxData =
      (w.recordMaxStreamData streamId maxData).withBuffer buffer := rfl
  unfold recvMaxStreamData
  simp only [hreceived, hrecord, withBuffer_streams, reportStreamStateError_frame,
    reportFlowControlError_frame, setEntry_frame,
    show (sc.frame before buffer).isServer = sc.isServer from rfl, hprevious]
  cases (w.recordMaxStreamData streamId maxData).streams.find? streamId with
  | none =>
      dsimp only
      split_ifs <;> rfl
  | some info =>
      have hflush := store_blind before buffer sc
        ((w.recordMaxStreamData streamId maxData).raiseMaxStreamData streamId info maxData)
        BufferBlind.flushPendingSends
      dsimp only
      split_ifs
      · rfl
      · rfl
      · rfl
      · exact hflush
      · rfl

theorem recvMaxStreams_frame (isBidi : Bool) (maxStreams : Nat) :
    (sc.frame before buffer).recvMaxStreams (w.withBuffer buffer) isBidi maxStreams =
      (sc.recvMaxStreams w isBidi maxStreams).frame before buffer := by
  unfold recvMaxStreams
  simp only [withBuffer_receivedMaxStreamsBidi, withBuffer_receivedMaxStreamsUni,
    withBuffer_maxStreamsBidiLocal, withBuffer_maxStreamsUniLocal, reportFlowControlError_frame]
  split_ifs <;> rfl

theorem recvStreamDataBlocked_frame (streamId : Nat) :
    (sc.frame before buffer).recvStreamDataBlocked (w.withBuffer buffer) streamId =
      (sc.recvStreamDataBlocked w streamId).frame before buffer := by
  unfold recvStreamDataBlocked
  simp only [withBuffer_streams, withBuffer_releasedStreamIds, reportStreamStateError_frame,
    show (sc.frame before buffer).isServer = sc.isServer from rfl]
  split_ifs <;> rfl

theorem receive_frame (r : Received) :
    (sc.frame before buffer).receive (w.withBuffer buffer) r =
      (sc.receive w r).frame before buffer := by
  cases r with
  | stream fin streamId data => exact receiveStream_frame before buffer sc w fin streamId data
  | resetStream streamId errorCode reliableSize =>
      exact recvReset_frame before buffer sc w streamId errorCode reliableSize
  | stopSending streamId errorCode =>
      simp only [receive, reportStreamStateError_frame, recvStopSending_frame,
        show (sc.frame before buffer).isServer = sc.isServer from rfl]
      split_ifs <;> rfl
  | maxData maxData => exact recvMaxData_frame before buffer sc w maxData
  | maxStreamData streamId maxData =>
      exact recvMaxStreamData_frame before buffer sc w streamId maxData
  | maxStreams isBidi maxStreams =>
      exact recvMaxStreams_frame before buffer sc w isBidi maxStreams
  | streamDataBlocked streamId => exact recvStreamDataBlocked_frame before buffer sc w streamId
  | streamsBlocked maxStreams =>
      simp only [receive, reportFlowControlError_frame]
      split_ifs <;> rfl
  | datagram data => exact pushEvent_frame before buffer sc _
  | closeSession errorCode message =>
      simp only [receive, pushEvent_frame, eraseSession_frame]
  | drainSession => exact pushEvent_frame before buffer sc _
  | ignored => rfl

theorem react_frame (r : Reading) :
    (sc.frame before buffer).react (w.withBuffer buffer) r = (sc.react w r).frame before buffer := by
  cases r with
  | malformed => exact resetStreamForMalformedCapsule_frame before buffer sc
  | wtError message => exact reportWtError_frame before buffer sc message
  | received r => exact receive_frame before buffer sc w r

/-- Dispatching a capsule neither looks at the buffer behind it nor at what happened before it. -/
theorem processCapsule_frame {sc : SessionScope} {w : WtSessionInfo} (h : sc.entry = some w)
    (type : Nat) (payload : Bytes) (wireLen : Nat) :
    (sc.frame before buffer).processCapsule type payload wireLen =
      (sc.processCapsule type payload wireLen).frame before buffer := by
  unfold processCapsule
  have hentry : ((sc.perform (.dispatch type payload)).perform (.consumeRecvBytes wireLen)).entry =
      some w := h
  rw [perform_frame, perform_frame, handleCapsule_eq hentry, ← react_frame]
  refine handleCapsule_eq ?_ type payload
  simp only [frame, hentry, Option.map_some]

/-! ## The loop -/

/-- The scope with `data` appended to `capsule_buffer`. -/
def appendBuffer (data : Bytes) (sc : SessionScope) : SessionScope :=
  { sc with entry := sc.entry.map fun w => w.withBuffer (w.capsuleBuffer ++ data) }

/-- The number of bytes in `capsule_buffer`. -/
def buffered (sc : SessionScope) : Nat :=
  match sc.entry with
  | none => 0
  | some w => w.capsuleBuffer.length

/-- The loop of `process_capsules` run to its end. -/
def loop (sc : SessionScope) : SessionScope := processLoop (sc.buffered + 1) sc

/-- A dispatched capsule leaves the buffer as it found it, unless the session is gone. -/
theorem processCapsule_entry {sc : SessionScope} {w : WtSessionInfo} (h : sc.entry = some w)
    (type : Nat) (payload : Bytes) (wireLen : Nat) :
    sc.processCapsule type payload wireLen =
      (sc.processCapsule type payload wireLen).frame [] w.capsuleBuffer := by
  have hself : sc.frame [] w.capsuleBuffer = sc := by
    cases sc
    simp only [frame, List.nil_append] at h ⊢
    subst h
    rfl
  have hframe := processCapsule_frame [] w.capsuleBuffer h type payload wireLen
  rwa [hself] at hframe

theorem buffered_frame_le (before : List Effect) (buffer : Bytes) (sc : SessionScope) :
    (sc.frame before buffer).buffered ≤ buffer.length := by
  unfold buffered frame
  cases sc.entry with
  | none => exact Nat.zero_le _
  | some w => exact le_refl _

/-- What appending to the buffer does to a dispatch in front of the appended bytes. -/
theorem processCapsule_appendBuffer (data rest : Bytes) (sc : SessionScope) (w : WtSessionInfo)
    (type : Nat) (payload : Bytes) (wireLen : Nat) :
    (sc.setEntry (w.withBuffer (rest ++ data))).processCapsule type payload wireLen =
      ((sc.setEntry (w.withBuffer rest)).processCapsule type payload wireLen).appendBuffer data := by
  have hrest : (sc.setEntry (w.withBuffer rest)).entry = some (w.withBuffer rest) := rfl
  have hframe := processCapsule_frame [] (rest ++ data) hrest type payload wireLen
  have hkeep := processCapsule_entry hrest type payload wireLen
  have hlhs : (sc.setEntry (w.withBuffer rest)).frame [] (rest ++ data) =
      sc.setEntry (w.withBuffer (rest ++ data)) := rfl
  rw [← hlhs, hframe, hkeep]
  simp only [frame, appendBuffer, List.nil_append, Option.map_map, withBuffer_capsuleBuffer]
  rfl

/-- The session entry behind a capsule whose announced length is over the limit. -/
def closeOversized (sc : SessionScope) : SessionScope :=
  { sc.reportWtError "capsule payload exceeds limit" with
    entry := (sc.reportWtError "capsule payload exceeds limit").entry.map fun w => w.withBuffer [] }

theorem closeOversized_entry {sc : SessionScope} {w : WtSessionInfo} (h : sc.entry = some w)
    (hterm : w.isTerminated = false) :
    ∃ w', sc.closeOversized.entry = some w' ∧ w'.isTerminated = true ∧ w'.capsuleBuffer = [] := by
  refine ⟨{ w with isTerminated := true, isEstablished := false, preAcceptEndStream := false,
                   capsuleBuffer := [] }, ?_, rfl, rfl⟩
  simp only [closeOversized, reportWtError, closeSession, pushEvent, perform, h, hterm]
  rfl

/-- The bytes in the buffer do not matter to a session that is closed and cleared. -/
theorem closeOversized_appendBuffer (data : Bytes) (sc : SessionScope) :
    (sc.appendBuffer data).closeOversized = sc.closeOversized := by
  cases h : sc.entry with
  | none =>
      have hself : sc.appendBuffer data = sc := by
        cases sc
        simp only [appendBuffer] at h ⊢
        rw [h, Option.map_none]
      rw [hself]
  | some w =>
      have hframe : sc.appendBuffer data = sc.frame [] (w.capsuleBuffer ++ data) := by
        simp only [appendBuffer, frame, h, Option.map_some, List.nil_append]
      unfold closeOversized
      rw [hframe, reportWtError_frame]
      simp only [frame, List.nil_append, Option.map_map]
      rfl

/-- A turn of the loop once the two varints of the header are read. -/
theorem loopTurn_header {sc : SessionScope} {w : WtSessionInfo} {type typeLen len lengthLen : Nat}
    (hentry : sc.entry = some w) (hterm : w.isTerminated = false)
    (htype : decodeQuicVarint w.capsuleBuffer = some (type, typeLen))
    (hlength : decodeQuicVarint (w.capsuleBuffer.drop typeLen) = some (len, lengthLen)) :
    sc.loopTurn =
      if len > sc.config.wtMaxCapsulePayloadSize then .stop sc.closeOversized
      else if w.capsuleBuffer.length < typeLen + lengthLen + len then .stop sc
      else .again ((sc.setEntry (w.withBuffer (w.capsuleBuffer.drop (typeLen + lengthLen + len)))
        ).processCapsule type ((w.capsuleBuffer.drop (typeLen + lengthLen)).take len)
          (typeLen + lengthLen + len)) := by
  have hnil : w.capsuleBuffer ≠ [] := by
    intro h
    rw [h] at htype
    simp at htype
  unfold loopTurn
  rw [hentry]
  dsimp only
  rw [if_neg (by simp [hterm]), if_neg hnil, htype]
  dsimp only
  rw [hlength]
  rfl

/-- What stands at the head of `capsule_buffer`. -/
inductive Head
  /-- not yet a whole capsule -/
  | unfinished
  /-- a length beyond `wt_max_capsule_payload_size` -/
  | oversized
  | capsule (type : Nat) (payload rest : Bytes)
  deriving DecidableEq

/-- Read the head of a buffer. -/
def readHead (config : H2SessionConfig) (buffer : Bytes) : Head :=
  match decodeQuicVarint buffer with
  | none => .unfinished
  | some (type, typeLen) =>
      match decodeQuicVarint (buffer.drop typeLen) with
      | none => .unfinished
      | some (len, lengthLen) =>
          if len > config.wtMaxCapsulePayloadSize then .oversized
          else if buffer.length < typeLen + lengthLen + len then .unfinished
          else
            .capsule type ((buffer.drop (typeLen + lengthLen)).take len)
              (buffer.drop (typeLen + lengthLen + len))

/-- A whole capsule takes bytes off the buffer. -/
theorem length_lt_of_readHead {config : H2SessionConfig} {buffer payload rest : Bytes} {type : Nat}
    (h : readHead config buffer = .capsule type payload rest) : rest.length < buffer.length := by
  unfold readHead at h
  cases htype : decodeQuicVarint buffer with
  | none =>
      rw [htype] at h
      cases h
  | some r =>
      rcases r with ⟨t, typeLen⟩
      rcases decodeQuicVarint_spec htype with ⟨htypePos, htypeLe, -⟩
      rw [htype] at h
      dsimp only at h
      cases hlength : decodeQuicVarint (buffer.drop typeLen) with
      | none =>
          rw [hlength] at h
          cases h
      | some r =>
          rcases r with ⟨len, lengthLen⟩
          rw [hlength] at h
          dsimp only at h
          split_ifs at h
          cases h
          rw [List.length_drop]
          omega

/-- A turn of the loop for a session that is not terminated. -/
theorem loopTurn_live {sc : SessionScope} {w : WtSessionInfo} (hentry : sc.entry = some w)
    (hterm : w.isTerminated = false) :
    sc.loopTurn =
      match readHead sc.config w.capsuleBuffer with
      | .unfinished => .stop sc
      | .oversized => .stop sc.closeOversized
      | .capsule type payload rest =>
          .again ((sc.setEntry (w.withBuffer rest)).processCapsule type payload
            (w.capsuleBuffer.length - rest.length)) := by
  unfold readHead
  cases htype : decodeQuicVarint w.capsuleBuffer with
  | none => simp [loopTurn, hentry, hterm, htype]
  | some r =>
      rcases r with ⟨type, typeLen⟩
      dsimp only
      cases hlength : decodeQuicVarint (w.capsuleBuffer.drop typeLen) with
      | none => simp [loopTurn, hentry, hterm, htype, hlength]
      | some r =>
          rcases r with ⟨len, lengthLen⟩
          rw [loopTurn_header hentry hterm htype hlength]
          dsimp only
          split_ifs with hmax hshort
          · rfl
          · rfl
          · have hwire : w.capsuleBuffer.length -
                (w.capsuleBuffer.drop (typeLen + lengthLen + len)).length =
                typeLen + lengthLen + len := by
              rw [List.length_drop]
              omega
            dsimp only
            rw [hwire]

/-- A terminated session only clears its buffer. -/
theorem loopTurn_terminated {sc : SessionScope} {w : WtSessionInfo} (hentry : sc.entry = some w)
    (hterm : w.isTerminated = true) : sc.loopTurn = .stop (sc.setEntry (w.withBuffer [])) := by
  simp only [loopTurn, hentry]
  exact if_pos hterm

/-- The three ways a turn of the loop can go, and what more bytes at the end of the buffer do to
it: it stops and leaves everything as it was, it stops because the session is terminated, or it
dispatches a capsule in front of the added bytes. -/
theorem loopTurn_appendBuffer (data : Bytes) (sc : SessionScope) :
    sc.loopTurn = .stop sc ∨
    (∃ sc' w', sc.loopTurn = .stop sc' ∧ sc'.entry = some w' ∧ w'.isTerminated = true ∧
      w'.capsuleBuffer = [] ∧ (sc.appendBuffer data).loopTurn = .stop sc') ∨
    ∃ sc', sc.loopTurn = .again sc' ∧ sc'.buffered < sc.buffered ∧
      (sc.appendBuffer data).loopTurn = .again (sc'.appendBuffer data) := by
  cases hentry : sc.entry with
  | none =>
      left
      simp only [loopTurn, hentry]
  | some w =>
      have happ : (sc.appendBuffer data).entry = some (w.withBuffer (w.capsuleBuffer ++ data)) := by
        simp only [appendBuffer, hentry, Option.map_some]
      cases hterm : w.isTerminated with
      | true =>
          refine Or.inr (Or.inl ⟨sc.setEntry (w.withBuffer []), w.withBuffer [], ?_, rfl, hterm, rfl,
            ?_⟩)
          · simp only [loopTurn, hentry]
            exact if_pos hterm
          · simp only [loopTurn, happ]
            exact if_pos hterm
      | false =>
          cases htype : decodeQuicVarint w.capsuleBuffer with
          | none =>
              left
              simp [loopTurn, hentry, hterm, htype]
          | some r =>
              rcases r with ⟨type, typeLen⟩
              rcases decodeQuicVarint_spec htype with ⟨htypePos, htypeLe, -⟩
              cases hlength : decodeQuicVarint (w.capsuleBuffer.drop typeLen) with
              | none =>
                  left
                  simp [loopTurn, hentry, hterm, htype, hlength]
              | some r =>
                  rcases r with ⟨len, lengthLen⟩
                  have hturn := loopTurn_header hentry hterm htype hlength
                  -- The header is complete, so it reads the same with more bytes behind it.
                  have htype' := decodeQuicVarint_append data htype
                  have hlength' : decodeQuicVarint ((w.capsuleBuffer ++ data).drop typeLen) =
                      some (len, lengthLen) := by
                    rw [List.drop_append_of_le_length htypeLe]
                    exact decodeQuicVarint_append data hlength
                  have hturn' := loopTurn_header happ hterm htype' hlength'
                  by_cases hmax : len > sc.config.wtMaxCapsulePayloadSize
                  · rw [if_pos hmax] at hturn
                    rw [if_pos (show len > (sc.appendBuffer data).config.wtMaxCapsulePayloadSize from
                      hmax), closeOversized_appendBuffer] at hturn'
                    rcases closeOversized_entry hentry hterm with ⟨w', hw', hterm', hbuf'⟩
                    exact Or.inr (Or.inl ⟨_, w', hturn, hw', hterm', hbuf', hturn'⟩)
                  · rw [if_neg hmax] at hturn
                    by_cases hshort : w.capsuleBuffer.length < typeLen + lengthLen + len
                    · left
                      rw [hturn, if_pos hshort]
                    · rw [if_neg hshort] at hturn
                      -- The payload is complete too, so it is the same payload.
                      have hheader : typeLen + lengthLen ≤ w.capsuleBuffer.length := by omega
                      have hpayload : ((w.capsuleBuffer ++ data).drop (typeLen + lengthLen)).take len =
                          (w.capsuleBuffer.drop (typeLen + lengthLen)).take len := by
                        rw [List.drop_append_of_le_length hheader, List.take_append_of_le_length]
                        rw [List.length_drop]
                        omega
                      have hrest : (w.capsuleBuffer ++ data).drop (typeLen + lengthLen + len) =
                          w.capsuleBuffer.drop (typeLen + lengthLen + len) ++ data :=
                        List.drop_append_of_le_length (not_lt.1 hshort)
                      refine Or.inr (Or.inr ⟨_, hturn, ?_, ?_⟩)
                      · rw [processCapsule_entry rfl]
                        refine lt_of_le_of_lt (buffered_frame_le _ _ _) ?_
                        rw [withBuffer_capsuleBuffer, List.length_drop]
                        simp only [buffered, hentry]
                        omega
                      · have hmax' : ¬ len > (sc.appendBuffer data).config.wtMaxCapsulePayloadSize := hmax
                        have hlong : ¬ (w.capsuleBuffer ++ data).length < typeLen + lengthLen + len := by
                          rw [List.length_append]
                          omega
                        rw [hturn', if_neg hmax', withBuffer_capsuleBuffer, if_neg hlong, hpayload,
                          hrest, ← processCapsule_appendBuffer]
                        rfl

/-- A turn that goes on has taken bytes out of the buffer. -/
theorem buffered_lt_of_again {sc sc' : SessionScope} (h : sc.loopTurn = .again sc') :
    sc'.buffered < sc.buffered := by
  rcases loopTurn_appendBuffer [] sc with hstop | ⟨_, _, hstop, -⟩ | ⟨sc'', hagain, hlt, -⟩
  · rw [hstop] at h
    cases h
  · rw [hstop] at h
    cases h
  · rw [hagain] at h
    cases h
    exact hlt

/-- Any fuel above the buffer length gives the same run. -/
theorem processLoop_fuel {n m : Nat} {sc : SessionScope} (hn : sc.buffered < n)
    (hm : sc.buffered < m) : processLoop n sc = processLoop m sc := by
  induction n generalizing m sc with
  | zero => exact absurd hn (Nat.not_lt_zero _)
  | succ n ih =>
      cases m with
      | zero => exact absurd hm (Nat.not_lt_zero _)
      | succ m =>
          cases hturn : sc.loopTurn with
          | stop sc' => simp only [processLoop, hturn]
          | again sc' =>
              have hlt := buffered_lt_of_again hturn
              have hrec := ih (m := m) (show sc'.buffered < n by omega) (by omega)
              simp only [processLoop, hturn, hrec]

theorem loop_of_stop {sc sc' : SessionScope} (h : sc.loopTurn = .stop sc') : sc.loop = sc' := by
  simp only [loop, processLoop, h]

theorem loop_of_again {sc sc' : SessionScope} (h : sc.loopTurn = .again sc') :
    sc.loop = sc'.loop := by
  have hlt := buffered_lt_of_again h
  have hfuel : processLoop sc.buffered sc' = processLoop (sc'.buffered + 1) sc' :=
    processLoop_fuel hlt (Nat.lt_succ_self _)
  simp only [loop, processLoop, h, hfuel]

/-- Induction along the turns of the loop: the session is gone, it is terminated, the head of the
buffer is unfinished or too long, or a capsule is dispatched and the loop goes on. -/
theorem loop_induction {P : SessionScope → SessionScope → Prop}
    (hgone : ∀ sc : SessionScope, sc.entry = none → P sc sc)
    (hended : ∀ (sc : SessionScope) (w : WtSessionInfo), sc.entry = some w →
      w.isTerminated = true → P sc (sc.setEntry (w.withBuffer [])))
    (hunfinished : ∀ (sc : SessionScope) (w : WtSessionInfo), sc.entry = some w →
      w.isTerminated = false → readHead sc.config w.capsuleBuffer = .unfinished → P sc sc)
    (hoversized : ∀ (sc : SessionScope) (w : WtSessionInfo), sc.entry = some w →
      w.isTerminated = false → readHead sc.config w.capsuleBuffer = .oversized →
      P sc sc.closeOversized)
    (hcapsule : ∀ (sc : SessionScope) (w : WtSessionInfo) (type : Nat) (payload rest : Bytes)
      (sc' : SessionScope), sc.entry = some w → w.isTerminated = false →
      readHead sc.config w.capsuleBuffer = .capsule type payload rest →
      sc' = (sc.setEntry (w.withBuffer rest)).processCapsule type payload
        (w.capsuleBuffer.length - rest.length) →
      P sc' sc'.loop → P sc sc'.loop)
    (sc : SessionScope) : P sc sc.loop := by
  induction hn : sc.buffered using Nat.strong_induction_on generalizing sc with
  | _ n ih =>
      cases hentry : sc.entry with
      | none =>
          have hturn : sc.loopTurn = .stop sc := by simp only [loopTurn, hentry]
          rw [loop_of_stop hturn]
          exact hgone sc hentry
      | some w =>
          cases hterm : w.isTerminated with
          | true =>
              rw [loop_of_stop (loopTurn_terminated hentry hterm)]
              exact hended sc w hentry hterm
          | false =>
              have hturn := loopTurn_live hentry hterm
              cases hhead : readHead sc.config w.capsuleBuffer with
              | unfinished =>
                  rw [hhead] at hturn
                  rw [loop_of_stop hturn]
                  exact hunfinished sc w hentry hterm hhead
              | oversized =>
                  rw [hhead] at hturn
                  rw [loop_of_stop hturn]
                  exact hoversized sc w hentry hterm hhead
              | capsule type payload rest =>
                  rw [hhead] at hturn
                  rw [loop_of_again hturn]
                  have hlt := buffered_lt_of_again hturn
                  exact hcapsule sc w type payload rest _ hentry hterm hhead rfl
                    (ih _ (hn ▸ hlt) _ rfl)

theorem processCapsules_eq_loop (sc : SessionScope) (data : Bytes) :
    sc.processCapsules data = (sc.appendBuffer data).loop := by
  cases h : sc.entry with
  | none =>
      have hstop : (sc.appendBuffer data).loopTurn = .stop sc := by
        have hself : sc.appendBuffer data = sc := by
          cases sc
          simp only [appendBuffer] at h ⊢
          rw [h, Option.map_none]
        rw [hself]
        simp only [loopTurn, h]
      rw [loop_of_stop hstop]
      simp only [processCapsules, h]
  | some w =>
      simp only [processCapsules, h, loop, appendBuffer, buffered, Option.map_some]
      rfl

/-- Bytes that arrive after the loop has stopped are handled as if they had been there. -/
theorem loop_appendBuffer (data : Bytes) (sc : SessionScope) :
    (sc.appendBuffer data).loop = (sc.loop.appendBuffer data).loop := by
  -- Induction on the buffer length: every turn that goes on shortens the buffer.
  induction hn : sc.buffered using Nat.strong_induction_on generalizing sc with
  | _ n ih =>
      rcases loopTurn_appendBuffer data sc with
        hstop | ⟨sc', w', hstop, hentry, hterm, hbuf, happ⟩ | ⟨sc', hagain, hlt, happ⟩
      · rw [loop_of_stop hstop]
      · rw [loop_of_stop hstop, loop_of_stop happ]
        -- A terminated session throws the new bytes away.
        refine (loop_of_stop ?_).symm
        have hentry' : (sc'.appendBuffer data).entry = some (w'.withBuffer data) := by
          simp only [appendBuffer, hentry, Option.map_some, hbuf, List.nil_append]
        simp only [loopTurn, hentry']
        rw [if_pos (show (w'.withBuffer data).isTerminated = true from hterm)]
        have hself : w' = w'.withBuffer [] := by
          cases w'
          simp only at hbuf
          rw [hbuf]
          rfl
        congr 1
        cases sc'
        simp only at hentry
        rw [hentry, hself]
        rfl
      · rw [loop_of_again hagain, loop_of_again happ]
        exact ih sc'.buffered (hn ▸ hlt) sc' rfl

/-- Two calls of `process_capsules` are one call on the joined bytes. -/
theorem processCapsules_append (sc : SessionScope) (a b : Bytes) :
    (sc.processCapsules a).processCapsules b = sc.processCapsules (a ++ b) := by
  rw [processCapsules_eq_loop, processCapsules_eq_loop, ← loop_appendBuffer,
    processCapsules_eq_loop]
  congr 1
  simp only [appendBuffer, Option.map_map]
  congr 2
  funext w
  simp only [Function.comp, withBuffer, List.append_assoc]

/-- Any number of calls is one call. -/
theorem foldl_processCapsules (sc : SessionScope) (first : Bytes) (rest : List Bytes) :
    rest.foldl processCapsules (sc.processCapsules first) =
      sc.processCapsules (first ++ rest.flatten) := by
  induction rest generalizing first with
  | nil => rw [List.foldl_nil, List.flatten_nil, List.append_nil]
  | cons next rest ih =>
      rw [List.foldl_cons, processCapsules_append, ih, List.flatten_cons, List.append_assoc]

/-! ## What a handler may do -/

/-- Handlers never dispatch a capsule themselves, and they leave the receive credit alone but for
the discard at the end of a session. -/
def fromHandler : Effect → Bool
  | .dispatch _ _ => false
  | .consumeRecvBytes _ => false
  | _ => true

theorem closeSession_effects (sc : SessionScope) (errorCode : Nat) (message : Bytes) :
    ∃ es, (sc.closeSession errorCode message).effects = sc.effects ++ es ∧
      ∀ e ∈ es, fromHandler e = true := by
  unfold closeSession
  cases sc.entry with
  | none => exact ⟨[], (List.append_nil _).symm, by simp⟩
  | some w =>
      dsimp only
      split_ifs
      · exact ⟨[], (List.append_nil _).symm, by simp⟩
      · exact ⟨_, rfl, by simp [fromHandler]⟩

theorem carryOut_effects (sc : SessionScope) (v : Verdict) :
    ∃ es, (sc.carryOut v).effects = sc.effects ++ es ∧ ∀ e ∈ es, fromHandler e = true := by
  cases v with
  | refuse w event errorCode message =>
      rcases closeSession_effects
          { sc with entry := some w, effects := sc.effects ++ event.toList.map sc.eventEffect }
          errorCode (ascii message) with ⟨es, hes, hall⟩
      refine ⟨event.toList.map sc.eventEffect ++ es, by rw [← List.append_assoc]; exact hes, ?_⟩
      intro e he
      rcases List.mem_append.1 he with he | he
      · rcases List.mem_map.1 he with ⟨ev, -, rfl⟩
        rfl
      · exact hall e he
  | accept before q after =>
      refine ⟨_, rfl, ?_⟩
      intro e he
      simp only [List.mem_append, List.mem_map] at he
      rcases he with (⟨_, -, rfl⟩ | ⟨_, -, rfl⟩) | ⟨_, -, rfl⟩ <;> rfl
  | close event =>
      refine ⟨_, List.append_assoc _ _ _, ?_⟩
      simp [fromHandler]

theorem react_effects {sc : SessionScope} {w : WtSessionInfo} (h : sc.entry = some w) (r : Reading) :
    ∃ es, (sc.react w r).effects = sc.effects ++ es ∧ ∀ e ∈ es, fromHandler e = true := by
  cases r with
  | malformed => exact ⟨_, rfl, by simp [fromHandler]⟩
  | wtError message =>
      rcases closeSession_effects (sc.pushEvent (.mk .error (-1) 0 [] kWtError (ascii message) false
          0 [] 0)) kWtError (ascii message) with ⟨es, hes, hall⟩
      refine ⟨_ :: es, hes.trans (List.append_assoc _ [_] es), ?_⟩
      intro e he
      rcases List.mem_cons.1 he with rfl | he
      · rfl
      · exact hall e he
  | received r =>
      have heq : sc.react w (.received r) = sc.carryOut (w.judge sc.config sc.isServer r) :=
        receive_eq h r
      rw [heq]
      exact carryOut_effects sc _

/-- What no session method changes. -/
def identity (sc : SessionScope) : Bool × H2SessionConfig × Int :=
  (sc.isServer, sc.config, sc.sessionId)

theorem closeSession_identity (sc : SessionScope) (errorCode : Nat) (message : Bytes) :
    (sc.closeSession errorCode message).identity = sc.identity := by
  unfold closeSession
  cases sc.entry with
  | none => rfl
  | some w =>
      dsimp only
      split_ifs <;> rfl

theorem processCapsule_identity {sc : SessionScope} {w : WtSessionInfo} (h : sc.entry = some w)
    (type : Nat) (payload : Bytes) (wireLen : Nat) :
    (sc.processCapsule type payload wireLen).identity = sc.identity := by
  have hentry : ((sc.perform (.dispatch type payload)).perform (.consumeRecvBytes wireLen)).entry =
      some w := h
  unfold processCapsule
  rw [handleCapsule_eq hentry]
  cases readPayload type payload with
  | malformed => rfl
  | wtError message => exact closeSession_identity _ _ _
  | received r =>
      rw [react, receive_eq hentry]
      cases WtSessionInfo.judge _ _ w r with
      | refuse w' event errorCode message => exact closeSession_identity _ _ _
      | accept before q after => rfl
      | close event => rfl

theorem loop_identity (sc : SessionScope) : sc.loop.identity = sc.identity := by
  refine loop_induction (P := fun sc sc' => sc'.identity = sc.identity) ?_ ?_ ?_ ?_ ?_ sc
  · intro sc hentry
    rfl
  · intro sc w hentry hterm
    rfl
  · intro sc w hentry hterm hhead
    rfl
  · intro sc w hentry hterm hhead
    exact closeSession_identity _ _ _
  · intro sc w type payload rest sc' hentry hterm hhead hsc' ih
    have hone : sc'.identity = sc.identity := by
      rw [hsc']
      exact processCapsule_identity rfl type payload _
    exact ih.trans hone

theorem processCapsules_identity (sc : SessionScope) (data : Bytes) :
    (sc.processCapsules data).identity = sc.identity := by
  rw [processCapsules_eq_loop]
  exact loop_identity _

/-- Dispatching a capsule records it, credits its bytes, and then does what the handler does. -/
theorem processCapsule_effects {sc : SessionScope} {w : WtSessionInfo} (h : sc.entry = some w)
    (type : Nat) (payload : Bytes) (wireLen : Nat) :
    ∃ es, (sc.processCapsule type payload wireLen).effects =
        sc.effects ++ [.dispatch type payload, .consumeRecvBytes wireLen] ++ es ∧
      ∀ e ∈ es, fromHandler e = true := by
  have hentry : ((sc.perform (.dispatch type payload)).perform (.consumeRecvBytes wireLen)).entry =
      some w := h
  rcases react_effects hentry (readPayload type payload) with ⟨es, hes, hall⟩
  refine ⟨es, ?_, hall⟩
  unfold processCapsule
  rw [handleCapsule_eq hentry, hes]
  simp only [perform, List.append_assoc, List.cons_append, List.nil_append]

/-! ## Encoded capsules -/

/-- The capsules handed to `process_capsule` so far. -/
def dispatched (sc : SessionScope) : List (Nat × Bytes) :=
  sc.effects.filterMap fun
    | .dispatch type payload => some (type, payload)
    | _ => none

/-- Dispatch a whole capsule as the loop does. -/
def dispatch (sc : SessionScope) (c : Nat × Bytes) : SessionScope :=
  sc.processCapsule c.1 c.2 (encodeCapsule c.1 c.2).length

/-- The session is there and not terminated. -/
def Live (sc : SessionScope) : Prop := ∃ w, sc.entry = some w ∧ w.isTerminated = false

instance (sc : SessionScope) : Decidable sc.Live :=
  decidable_of_iff ((sc.entry.any fun w => !w.isTerminated) = true) (by
    cases h : sc.entry <;> simp [Live, h])

/-- `encode_capsule` accepts the capsule and the receiver's limit admits its payload. -/
structure Fits (config : H2SessionConfig) (c : Nat × Bytes) : Prop where
  type_le : c.1 ≤ kMaxQuicVarint
  length_le : c.2.length ≤ kMaxQuicVarint
  payload_le : c.2.length ≤ config.wtMaxCapsulePayloadSize

instance (config : H2SessionConfig) (c : Nat × Bytes) : Decidable (Fits config c) :=
  decidable_of_iff (c.1 ≤ kMaxQuicVarint ∧ c.2.length ≤ kMaxQuicVarint ∧
    c.2.length ≤ config.wtMaxCapsulePayloadSize)
    ⟨fun h => ⟨h.1, h.2.1, h.2.2⟩, fun h => ⟨h.type_le, h.length_le, h.payload_le⟩⟩

theorem dispatched_processCapsule {sc : SessionScope} {w : WtSessionInfo} (h : sc.entry = some w)
    (type : Nat) (payload : Bytes) (wireLen : Nat) :
    (sc.processCapsule type payload wireLen).dispatched = sc.dispatched ++ [(type, payload)] := by
  rcases processCapsule_effects h type payload wireLen with ⟨es, hes, hall⟩
  have hnone : es.filterMap (fun
      | .dispatch type payload => some (type, payload)
      | _ => none : Effect → Option (Nat × Bytes)) = [] := by
    rw [List.filterMap_eq_nil_iff]
    intro e he
    have hfrom := hall e he
    cases e <;> first | rfl | cases hfrom
  unfold dispatched
  rw [hes, List.filterMap_append, List.filterMap_append, hnone, List.append_nil]
  rfl

/-- The header of an encoded capsule is read back. -/
theorem decode_encodeCapsule {type : Nat} {payload : Bytes} (htype : type ≤ kMaxQuicVarint)
    (hlength : payload.length ≤ kMaxQuicVarint) :
    decodeQuicVarint (encodeCapsule type payload) = some (type, quicVarintLength type) ∧
      decodeQuicVarint ((encodeCapsule type payload).drop (quicVarintLength type)) =
        some (payload.length, quicVarintLength payload.length) := by
  have hbytes : encodeCapsule type payload =
      varintBytes type ++ (varintBytes payload.length ++ payload) := by
    rw [encodeCapsule, List.append_assoc]
  rw [hbytes, Capsule.drop_varintBytes]
  exact ⟨decodeQuicVarint_encode htype _, decodeQuicVarint_encode hlength _⟩

/-- A turn of the loop on an encoded capsule dispatches it. -/
theorem loopTurn_encoded {sc : SessionScope} {w : WtSessionInfo} {c : Nat × Bytes}
    (hentry : sc.entry = some w) (hterm : w.isTerminated = false) (hfits : Fits sc.config c)
    (hbuf : w.capsuleBuffer = encodeCapsule c.1 c.2) :
    sc.loopTurn = .again ((sc.setEntry (w.withBuffer [])).dispatch c) := by
  rcases c with ⟨type, payload⟩
  have hheader := decode_encodeCapsule hfits.type_le hfits.length_le
  rw [← hbuf] at hheader
  dsimp only at hbuf hheader
  rcases hheader with ⟨htype, hlength⟩
  have hwire : w.capsuleBuffer.length =
      quicVarintLength type + quicVarintLength payload.length + payload.length := by
    rw [hbuf, encodeCapsule]
    simp only [List.length_append, varintBytes_length]
  have hrest : w.capsuleBuffer.drop
      (quicVarintLength type + quicVarintLength payload.length + payload.length) = [] := by
    rw [← hwire, List.drop_length]
  have hpayload : (w.capsuleBuffer.drop (quicVarintLength type + quicVarintLength payload.length)
      ).take payload.length = payload := by
    rw [hbuf, encodeCapsule, List.append_assoc, ← List.drop_drop, Capsule.drop_varintBytes,
      Capsule.drop_varintBytes, List.take_length]
  rw [loopTurn_header hentry hterm htype hlength, if_neg (not_lt.2 hfits.payload_le),
    if_neg (by omega), hrest, hpayload, ← hwire, hbuf]
  rfl

theorem dispatch_buffer {sc : SessionScope} {w w' : WtSessionInfo} {c : Nat × Bytes}
    (hentry : sc.entry = some w) (h : (sc.dispatch c).entry = some w') :
    w'.capsuleBuffer = w.capsuleBuffer := by
  have hkeep := congrArg SessionScope.entry
    (processCapsule_entry hentry c.1 c.2 (encodeCapsule c.1 c.2).length)
  unfold dispatch at h
  rw [hkeep] at h
  simp only [frame, Option.map_eq_some_iff] at h
  rcases h with ⟨w'', -, rfl⟩
  rfl

/-- A turn that finds no entry or an empty buffer changes nothing. -/
theorem loopTurn_idle {sc : SessionScope} (h : ∀ w, sc.entry = some w → w.capsuleBuffer = []) :
    sc.loopTurn = .stop sc := by
  unfold loopTurn
  cases hentry : sc.entry with
  | none => rfl
  | some w =>
      have hbuf := h w hentry
      have hself : sc.setEntry { w with capsuleBuffer := [] } = sc := by
        rw [← hbuf]
        exact setEntry_self hentry
      dsimp only
      rw [hself, if_pos hbuf, ite_self]

/-- A live session with an empty buffer that is fed one encoded capsule dispatches it. -/
theorem processCapsules_one {sc : SessionScope} {w : WtSessionInfo} {c : Nat × Bytes}
    (hentry : sc.entry = some w) (hterm : w.isTerminated = false) (hbuf : w.capsuleBuffer = [])
    (hfits : Fits sc.config c) :
    sc.processCapsules (encodeCapsule c.1 c.2) = sc.dispatch c := by
  have hself : w.withBuffer [] = w := by
    cases w
    simp only at hbuf
    rw [hbuf]
    rfl
  have happ : (sc.appendBuffer (encodeCapsule c.1 c.2)).entry =
      some (w.withBuffer (encodeCapsule c.1 c.2)) := by
    simp only [appendBuffer, hentry, Option.map_some, hbuf, List.nil_append]
  have hturn := loopTurn_encoded happ hterm hfits rfl
  have hback : (sc.appendBuffer (encodeCapsule c.1 c.2)).setEntry
      ((w.withBuffer (encodeCapsule c.1 c.2)).withBuffer []) = sc := by
    have hset := setEntry_self hentry
    rw [← hself] at hset
    exact hset
  rw [hback] at hturn
  rw [processCapsules_eq_loop, loop_of_again hturn]
  -- The next turn finds nothing to read.
  exact loop_of_stop (loopTurn_idle fun w' hw' => (dispatch_buffer hentry hw').trans hbuf)

/-- A live session with an empty buffer that is fed a capsule over its limit is closed. -/
theorem processCapsules_oversized {sc : SessionScope} {w : WtSessionInfo} {type : Nat}
    {payload : Bytes} (hentry : sc.entry = some w) (hterm : w.isTerminated = false)
    (hbuf : w.capsuleBuffer = []) (htype : type ≤ kMaxQuicVarint)
    (hlength : payload.length ≤ kMaxQuicVarint)
    (hlimit : payload.length > sc.config.wtMaxCapsulePayloadSize) :
    sc.processCapsules (encodeCapsule type payload) = sc.closeOversized := by
  have happ : (sc.appendBuffer (encodeCapsule type payload)).entry =
      some (w.withBuffer (encodeCapsule type payload)) := by
    simp only [appendBuffer, hentry, Option.map_some, hbuf, List.nil_append]
  rcases decode_encodeCapsule htype hlength with ⟨hdecode, hdecode'⟩
  have hturn := loopTurn_header happ hterm hdecode hdecode'
  have hlimit' : payload.length >
      (sc.appendBuffer (encodeCapsule type payload)).config.wtMaxCapsulePayloadSize := hlimit
  rw [if_pos hlimit', closeOversized_appendBuffer] at hturn
  rw [processCapsules_eq_loop, loop_of_stop hturn]

/-- Encoded capsules are dispatched one after the other and leave the buffer empty, as long as the
session outlives each of them. -/
theorem processCapsules_encoded {sc : SessionScope} {w : WtSessionInfo} {cs : List (Nat × Bytes)}
    (hentry : sc.entry = some w) (hterm : w.isTerminated = false) (hbuf : w.capsuleBuffer = [])
    (hfits : ∀ c ∈ cs, Fits sc.config c)
    (hlive : ∀ k ≤ cs.length, ((cs.take k).foldl dispatch sc).Live) :
    sc.processCapsules (cs.flatMap fun c => encodeCapsule c.1 c.2) = cs.foldl dispatch sc ∧
      (cs.foldl dispatch sc).dispatched = sc.dispatched ++ cs ∧
      ∃ w', (cs.foldl dispatch sc).entry = some w' ∧ w'.capsuleBuffer = [] := by
  induction cs generalizing sc w with
  | nil =>
      refine ⟨?_, by simp, w, hentry, hbuf⟩
      have hstop : sc.loopTurn = .stop sc := by
        refine loopTurn_idle fun w' hw' => ?_
        rw [hentry] at hw'
        cases hw'
        exact hbuf
      have hself : sc.appendBuffer [] = sc := by
        cases sc
        simp only at hentry
        simp only [appendBuffer, hentry, Option.map_some, List.append_nil]
        rfl
      rw [List.flatMap_nil, processCapsules_eq_loop, hself, loop_of_stop hstop]
      rfl
  | cons c cs ih =>
      have hfirst : (sc.dispatch c).Live := hlive 1 (by simp)
      have hone := processCapsules_one hentry hterm hbuf (hfits c List.mem_cons_self)
      have hconfig : (sc.dispatch c).config = sc.config :=
        congrArg (fun i => i.2.1) (processCapsule_identity hentry _ _ _)
      rcases hfirst with ⟨w', hw', hterm'⟩
      have hbuf' := dispatch_buffer hentry hw'
      have hrest := ih hw' hterm' (hbuf'.trans hbuf)
        (fun c' hc' => by rw [hconfig]; exact hfits c' (List.mem_cons_of_mem _ hc'))
        (fun k hk => hlive (k + 1) (Nat.succ_le_succ hk))
      rcases hrest with ⟨hproc, hdisp, hend⟩
      refine ⟨?_, ?_, hend⟩
      · rw [List.flatMap_cons, ← processCapsules_append, hone, hproc]
        rfl
      · rw [List.foldl_cons, hdisp]
        unfold dispatch
        rw [dispatched_processCapsule hentry, List.append_assoc]
        rfl

/-- Framing is independent of chunking.  The whole scope is the same, that is the entry and every
effect in order, among them the dispatched capsules, the events and the queued capsules.  A list of
encoded capsules none of which terminates the session is dispatched as that list. -/
theorem framing_independent_of_chunking :
    (∀ (sc : SessionScope) (first : Bytes) (rest : List Bytes),
      (first :: rest).foldl processCapsules sc = sc.processCapsules (first :: rest).flatten) ∧
    ∀ (sc : SessionScope) (w : WtSessionInfo) (cs : List (Nat × Bytes)),
      sc.entry = some w → w.isTerminated = false → w.capsuleBuffer = [] →
      (∀ c ∈ cs, Fits sc.config c) →
      (∀ k ≤ cs.length, ((cs.take k).foldl dispatch sc).Live) →
      (sc.processCapsules (cs.flatMap fun c => encodeCapsule c.1 c.2)).dispatched =
          sc.dispatched ++ cs ∧
        ∃ w', (sc.processCapsules (cs.flatMap fun c => encodeCapsule c.1 c.2)).entry = some w' ∧
          w'.capsuleBuffer = [] := by
  constructor
  · intro sc first rest
    rw [List.foldl_cons, foldl_processCapsules, List.flatten_cons]
  · intro sc w cs hentry hterm hbuf hfits hlive
    rcases processCapsules_encoded hentry hterm hbuf hfits hlive with ⟨hproc, hdisp, hend⟩
    rw [hproc]
    exact ⟨hdisp, hend⟩

/-- A padding capsule and a datagram on a fresh session. -/
theorem framing_independent_of_chunking_padding_datagram :
    let sc : SessionScope := { isServer := true, config := {}, sessionId := 1,
                               entry := some { http2StreamId := 1, isEstablished := true } }
    let cs : List (Nat × Bytes) := [(0x190B4D38, [1, 2]), (0, [7])]
    (sc.processCapsules (cs.flatMap fun c => encodeCapsule c.1 c.2)).dispatched = cs ∧
      ([[0x99], [0x0B, 0x4D, 0x38, 2, 1, 2], [0, 1, 7]] : List Bytes).foldl processCapsules sc =
        sc.processCapsules [0x99, 0x0B, 0x4D, 0x38, 2, 1, 2, 0, 1, 7] := by
  intro sc cs
  refine ⟨?_, framing_independent_of_chunking.1 sc _ _⟩
  exact (framing_independent_of_chunking.2 sc { http2StreamId := 1, isEstablished := true } cs rfl
    rfl rfl (by decide) (by decide)).1

end SessionScope

end H2
end WebTransport
