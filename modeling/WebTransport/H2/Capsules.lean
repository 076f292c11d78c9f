import WebTransport.H2.Streams

/-!
# H2.Capsules — receiving capsules on one session (`webtransport_h2.cpp`)

Every capsule handler of `H2Session` works on the entry of one session id.  `SessionScope` is the
part of the `H2Session` such a method sees: the role, the configuration, the entry (`none` once
`wt_sessions_.erase` has run), and the list of effects on the rest of the connection, in the order
the method performs them.  `H2.Session` carries the effects out.
-/

namespace WebTransport
namespace H2

open Bindings

/-- What a session method does outside its `WtSessionInfo`. -/
inductive Effect
  /-- `push_event` -/
  | event (e : H2Event)
  /-- `send_capsule` -/
  | capsule (c : Capsule)
  /-- `consume_recv_bytes(session_id, size)` -/
  | consumeRecvBytes (size : Nat)
  /-- `discard_stream_recv_bytes(session_id)` -/
  | discardStreamRecvBytes
  /-- `http2_stream_buffers_.erase(session_id)` -/
  | eraseStreamBuffers
  /-- `end_stream_pending_.insert(session_id)` and the `nghttp2_conn_resume_stream` behind it -/
  | endStreamPending
  /-- `nghttp2_conn_shutdown_stream` -/
  | shutdownStream (errorCode : Nat)
  /-- A call of `process_capsule`; a record only. -/
  | dispatch (type : Nat) (payload : Bytes)
  deriving DecidableEq

/-- An `H2Session` seen from one session id. -/
structure SessionScope where
  isServer : Bool
  config : H2SessionConfig
  sessionId : Int
  entry : Option WtSessionInfo
  effects : List Effect := []
  deriving DecidableEq

namespace SessionScope

/-! ## Effects -/

def perform (sc : SessionScope) (e : Effect) : SessionScope :=
  { sc with effects := sc.effects ++ [e] }

def setEntry (sc : SessionScope) (w : WtSessionInfo) : SessionScope :=
  { sc with entry := some w }

/-- `push_event`, with the session id filled in. -/
def pushEvent (sc : SessionScope) (e : H2Event) : SessionScope :=
  sc.perform (.event { e with sessionId := sc.sessionId })

/-- Store the entry an operation of `H2.Streams` returns and send what it queued. -/
def store (sc : SessionScope) (q : Queued) : SessionScope :=
  { sc with entry := some q.1, effects := sc.effects ++ q.2.map .capsule }

/-- Run an operation of `H2.Streams` on the entry; without an entry nothing happens. -/
def onEntry (sc : SessionScope) (f : WtSessionInfo → Queued) : SessionScope :=
  match sc.entry with
  | none => sc
  | some w => sc.store (f w)

/-! ## Ending the session -/

/-- The truncation loop of `close_session`: step back until the prefix is well-formed UTF-8. -/
def truncateUtf8 (message : Bytes) : Nat → Bytes
  | 0 => []
  | len + 1 =>
      if isValidUtf8 (message.take (len + 1)) then message.take (len + 1)
      else truncateUtf8 message len

/-- The message bytes that `close_session` puts in the capsule. -/
def closeMessage (message : Bytes) : Bytes :=
  truncateUtf8 message (min message.length kMaxApplicationErrorMessageBytes)

/-- `close_session` -/
def closeSession (sc : SessionScope) (errorCode : Nat) (message : Bytes) : SessionScope :=
  match sc.entry with
  | none => sc
  | some w =>
      if w.isTerminated then sc
      else
        { sc with
          entry := some { w with isTerminated := true, isEstablished := false,
                                 preAcceptEndStream := false }
          effects := sc.effects ++ [.discardStreamRecvBytes,
            .capsule (.wtCloseSession errorCode (closeMessage message)), .endStreamPending] }

/-- `reset_stream_for_malformed_capsule` -/
def resetStreamForMalformedCapsule (sc : SessionScope) : SessionScope :=
  { sc with
    entry := sc.entry.map fun w =>
      { w with isTerminated := true, isEstablished := false, preAcceptEndStream := false }
    effects := sc.effects ++ [.shutdownStream protocolError] }

/-- `report_stream_state_error` -/
def reportStreamStateError (sc : SessionScope) (streamId : Nat) (message : String) :
    SessionScope :=
  (sc.pushEvent { type := .error, streamId := streamId, errorCode := kWtStreamStateError,
                  errorMessage := ascii message }).closeSession kWtStreamStateError (ascii message)

/-- `report_flow_control_error` -/
def reportFlowControlError (sc : SessionScope) (message : String) : SessionScope :=
  sc.closeSession kWtFlowControlError (ascii message)

/-- `report_recv_flow_control_error` -/
def reportRecvFlowControlError (sc : SessionScope) (streamId : Nat) (message : String) :
    SessionScope :=
  (sc.pushEvent { type := .error, streamId := streamId, errorCode := kWtFlowControlError,
                  errorMessage := ascii message }).reportFlowControlError message

/-- `report_wt_error` -/
def reportWtError (sc : SessionScope) (message : String) : SessionScope :=
  (sc.pushEvent { type := .error, errorCode := kWtError,
                  errorMessage := ascii message }).closeSession kWtError (ascii message)

/-! ## Reading payload fields -/

/-- `read_capsule_varint`: go on with the value and its length, or reset the stream. -/
def readCapsuleVarint (sc : SessionScope) (data : Bytes) (next : Nat → Nat → SessionScope) :
    SessionScope :=
  match decodeQuicVarint data with
  | none => sc.resetStreamForMalformedCapsule
  | some (value, len) => next value len

/-- `verify_capsule_payload_fully_read`: go on, or reset the stream. -/
def verifyCapsulePayloadFullyRead (sc : SessionScope) (offset length : Nat)
    (next : SessionScope) : SessionScope :=
  if offset = length then next else sc.resetStreamForMalformedCapsule

/-! ## Capsule handlers -/

/-- `handle_wt_stream` from the point where the stream entry `info` exists in `w`. -/
def recvStreamData (sc : SessionScope) (w : WtSessionInfo) (info : WtStreamInfo) (streamId : Nat)
    (fin : Bool) (data : Bytes) : SessionScope :=
  if data.length > 0 ∧ info.recvState.recvDone then
    (sc.setEntry w).reportStreamStateError streamId
      "WT_STREAM received for stream in terminal state"
  else if w.bytesReceived + data.length > w.maxDataRemote ∨
      info.bytesReceived + data.length > info.maxStreamDataRemote then
    (sc.setEntry w).reportRecvFlowControlError streamId "peer exceeded flow control limit"
  else
    let sc :=
      if data.length > 0 ∨ fin then
        sc.pushEvent { type := .streamData, streamId := streamId, data := data, fin := fin }
      else sc
    sc.store (w.acceptStreamData sc.config streamId info fin data.length)

/-- `handle_wt_stream` -/
def handleWtStream (sc : SessionScope) (fin : Bool) (payload : Bytes) : SessionScope :=
  sc.readCapsuleVarint payload fun streamId streamIdLen =>
    let data := payload.drop streamIdLen
    match sc.entry with
    | none => sc
    | some w =>
        if !isReceivableDataCapsule streamId sc.isServer then
          sc.reportStreamStateError streamId "WT_STREAM received for local send-only stream"
        else
          match w.streams.find? streamId with
          | some info => sc.recvStreamData w info streamId fin data
          | none =>
              if streamId ∈ w.releasedStreamIds then
                -- An empty capsule for a released stream is ignored.
                if data.length = 0 then sc
                else sc.reportStreamStateError streamId "WT_STREAM received for released stream"
              else if w.incomingStreamExceedsLimit streamId then
                sc.reportRecvFlowControlError streamId "peer exceeded Maximum Streams limit"
              else
                let info := w.newPeerStream sc.config sc.isServer streamId
                sc.recvStreamData (w.setStream streamId info) info streamId fin data

/-- `handle_wt_reset_stream` once its payload is decoded and the session entry is there. -/
def recvReset (sc : SessionScope) (w : WtSessionInfo) (streamId errorCode reliableSize : Nat) :
    SessionScope :=
  let resetEvent : H2Event := { type := .streamReset, streamId := streamId, errorCode := errorCode }
  if !isReceivableDataCapsule streamId sc.isServer then
    sc.reportStreamStateError streamId "WT_RESET_STREAM received for local send-only stream"
  else
    match w.streams.find? streamId with
    | none =>
        if streamId ∈ w.releasedStreamIds then
          sc.reportStreamStateError streamId "WT_RESET_STREAM received for released stream"
        else if reliableSize > 0 then
          sc.reportStreamStateError streamId
            "WT_RESET_STREAM non-zero reliable size, unknown stream"
        else if w.incomingStreamExceedsLimit streamId then
          sc.reportRecvFlowControlError streamId "peer exceeded Maximum Streams limit"
        else
          let info := { w.newPeerStream sc.config sc.isServer streamId with
                        recvState := .resetRecvd }
          (sc.pushEvent resetEvent).store
            ((w.setStream streamId info).maybeReleaseStream streamId)
    | some info =>
        if info.recvState.recvDone then
          sc.reportStreamStateError streamId
            "WT_RESET_STREAM received for stream in terminal state"
        else if reliableSize ≠ info.bytesReceived then
          sc.reportStreamStateError streamId "WT_RESET_STREAM reliable size mismatch"
        else
          -- The event comes behind the release here, unlike in the creating branch.
          (sc.store ((w.setStream streamId { info with recvState := .resetRecvd }).maybeReleaseStream
            streamId)).pushEvent resetEvent

/-- `handle_wt_reset_stream` -/
def handleWtResetStream (sc : SessionScope) (payload : Bytes) : SessionScope :=
  sc.readCapsuleVarint payload fun streamId n1 =>
  sc.readCapsuleVarint (payload.drop n1) fun errorCode n2 =>
    if errorCode > kMaxApplicationErrorCode then
      sc.reportWtError "WT_RESET_STREAM error code exceeds 0xffffffff"
    else
      sc.readCapsuleVarint (payload.drop (n1 + n2)) fun reliableSize n3 =>
      sc.verifyCapsulePayloadFullyRead (n1 + n2 + n3) payload.length <|
        match sc.entry with
        | none => sc
        | some w => sc.recvReset w streamId errorCode reliableSize

/-- `handle_wt_stop_sending` behind its checks of the payload, code and direction. -/
def recvStopSending (sc : SessionScope) (w : WtSessionInfo) (streamId errorCode : Nat) :
    SessionScope :=
  let stopEvent : H2Event := { type := .stopSending, streamId := streamId, errorCode := errorCode }
  if w.hasReceivedStopSending streamId then
    sc.reportStreamStateError streamId "WT_STOP_SENDING received twice"
  else
    let w := w.recordStopSending streamId
    match w.streams.find? streamId with
    | none =>
        -- Past the bound an unknown id is dropped without an event.
        if streamId ∈ w.receivedStopSendingStreamIds then (sc.setEntry w).pushEvent stopEvent else sc
    | some info =>
        let w := w.setStream streamId { info with stopSendingReceived := true }
        ((sc.setEntry w).pushEvent stopEvent).onEntry (WtSessionInfo.resetStream streamId errorCode)

/-- `handle_wt_stop_sending` -/
def handleWtStopSending (sc : SessionScope) (payload : Bytes) : SessionScope :=
  sc.readCapsuleVarint payload fun streamId n1 =>
  sc.readCapsuleVarint (payload.drop n1) fun errorCode n2 =>
  sc.verifyCapsulePayloadFullyRead (n1 + n2) payload.length <|
    if errorCode > kMaxApplicationErrorCode then
      sc.reportWtError "WT_STOP_SENDING error code exceeds 0xffffffff"
    else if !isReceivableFlowCapsule streamId sc.isServer then
      sc.reportStreamStateError streamId "WT_STOP_SENDING received for local receive-only stream"
    else
      match sc.entry with
      | none => sc
      | some w => sc.recvStopSending w streamId errorCode

/-- `handle_wt_max_data` once its payload is decoded. -/
def recvMaxData (sc : SessionScope) (w : WtSessionInfo) (maxData : Nat) : SessionScope :=
  if w.receivedMaxData.any fun received => maxData < received then
    sc.reportFlowControlError "WT_MAX_DATA decreased"
  else
    let w := { w with receivedMaxData := some maxData }
    if maxData > w.maxDataLocal then sc.store (w.raiseMaxData maxData).flushPendingSends
    else sc.setEntry w

/-- `handle_wt_max_data` -/
def handleWtMaxData (sc : SessionScope) (payload : Bytes) : SessionScope :=
  sc.readCapsuleVarint payload fun maxData n1 =>
  sc.verifyCapsulePayloadFullyRead n1 payload.length <|
    match sc.entry with
    | none => sc
    | some w => sc.recvMaxData w maxData

/-- The "previously received value" `handle_wt_max_stream_data` compares with. -/
def previousMaxStreamData (isServer : Bool) (w : WtSessionInfo) (streamId : Nat) : Option Nat :=
  match w.receivedMaxStreamDataById.find? streamId with
  | some received => some received
  | none =>
      match w.streams.find? streamId with
      | some info => some info.maxStreamDataLocal
      | none => w.advertisedStreamSendCredit (isUniId streamId) (isServerId streamId == isServer)

/-- `handle_wt_max_stream_data` once its payload is decoded. -/
def recvMaxStreamData (sc : SessionScope) (w : WtSessionInfo) (streamId maxData : Nat) :
    SessionScope :=
  if !isReceivableFlowCapsule streamId sc.isServer then
    sc.reportStreamStateError streamId
      "WT_MAX_STREAM_DATA received for local receive-only stream"
  else if w.hasReceivedStopSending streamId then
    sc.reportStreamStateError streamId "WT_MAX_STREAM_DATA received after WT_STOP_SENDING"
  else if (previousMaxStreamData sc.isServer w streamId).any fun previous => maxData < previous then
    sc.reportFlowControlError "WT_MAX_STREAM_DATA decreased"
  else
    let w := w.recordMaxStreamData streamId maxData
    match w.streams.find? streamId with
    | none => sc.setEntry w
    | some info =>
        if maxData > info.maxStreamDataLocal then
          sc.store (w.raiseMaxStreamData streamId info maxData).flushPendingSends
        else sc.setEntry w

/-- `handle_wt_max_stream_data` -/
def handleWtMaxStreamData (sc : SessionScope) (payload : Bytes) : SessionScope :=
  sc.readCapsuleVarint payload fun streamId n1 =>
  sc.readCapsuleVarint (payload.drop n1) fun maxData n2 =>
  sc.verifyCapsulePayloadFullyRead (n1 + n2) payload.length <|
    match sc.entry with
    | none => sc
    | some w => sc.recvMaxStreamData w streamId maxData

/-- `handle_wt_max_streams` once its payload is decoded. -/
def recvMaxStreams (sc : SessionScope) (w : WtSessionInfo) (isBidi : Bool) (maxStreams : Nat) :
    SessionScope :=
  if maxStreams > kMaxStreamsLimit then
    sc.reportFlowControlError "WT_MAX_STREAMS exceeds 2^60"
  else if (if isBidi then w.receivedMaxStreamsBidi else w.receivedMaxStreamsUni).any
      fun received => maxStreams < received then
    sc.reportFlowControlError "WT_MAX_STREAMS decreased"
  else if isBidi then
    let w := { w with receivedMaxStreamsBidi := some maxStreams }
    if maxStreams > w.maxStreamsBidiLocal then
      sc.setEntry { w with maxStreamsBidiLocal := maxStreams, streamsBlockedBidiSent := false }
    else sc.setEntry w
  else
    let w := { w with receivedMaxStreamsUni := some maxStreams }
    if maxStreams > w.maxStreamsUniLocal then
      sc.setEntry { w with maxStreamsUniLocal := maxStreams, streamsBlockedUniSent := false }
    else sc.setEntry w

/-- `handle_wt_max_streams` -/
def handleWtMaxStreams (sc : SessionScope) (isBidi : Bool) (payload : Bytes) : SessionScope :=
  sc.readCapsuleVarint payload fun maxStreams n1 =>
  sc.verifyCapsulePayloadFullyRead n1 payload.length <|
    match sc.entry with
    | none => sc
    | some w => sc.recvMaxStreams w isBidi maxStreams

/-- `handle_wt_stream_data_blocked` once its payload is decoded; the announced offset is unused. -/
def recvStreamDataBlocked (sc : SessionScope) (w : WtSessionInfo) (streamId : Nat) :
    SessionScope :=
  if !isReceivableDataCapsule streamId sc.isServer then
    sc.reportStreamStateError streamId
      "WT_STREAM_DATA_BLOCKED received for local send-only stream"
  else if (w.streams.find? streamId).any fun info => info.recvState.recvDone then
    sc.reportStreamStateError streamId "WT_STREAM_DATA_BLOCKED received for terminal stream"
  else if streamId ∈ w.releasedStreamIds then
    sc.reportStreamStateError streamId "WT_STREAM_DATA_BLOCKED received for released stream"
  else sc

/-- `handle_wt_stream_data_blocked` -/
def handleWtStreamDataBlocked (sc : SessionScope) (payload : Bytes) : SessionScope :=
  sc.readCapsuleVarint payload fun streamId n1 =>
  sc.readCapsuleVarint (payload.drop n1) fun _ n2 =>
  sc.verifyCapsulePayloadFullyRead (n1 + n2) payload.length <|
    match sc.entry with
    | none => sc
    | some w => sc.recvStreamDataBlocked w streamId

/-- `handle_wt_streams_blocked` -/
def handleWtStreamsBlocked (sc : SessionScope) (payload : Bytes) : SessionScope :=
  sc.readCapsuleVarint payload fun maxStreams n1 =>
  sc.verifyCapsulePayloadFullyRead n1 payload.length <|
    match sc.entry with
    | none => sc
    | some _ =>
        if maxStreams > kMaxStreamsLimit then
          sc.reportFlowControlError "WT_STREAMS_BLOCKED exceeds 2^60"
        else sc

/-- `handle_wt_data_blocked` -/
def handleWtDataBlocked (sc : SessionScope) (payload : Bytes) : SessionScope :=
  sc.readCapsuleVarint payload fun _ n1 =>
  sc.verifyCapsulePayloadFullyRead n1 payload.length sc

/-- `handle_datagram` -/
def handleDatagram (sc : SessionScope) (payload : Bytes) : SessionScope :=
  sc.pushEvent { type := .datagram, data := payload }

/-- What every clean end of a session does behind its `SessionClosed` event: the queued capsules
and the entry go, the receive record is released, END_STREAM is answered. -/
def eraseSession (sc : SessionScope) : SessionScope :=
  { sc with
    entry := none
    effects := sc.effects ++ [.eraseStreamBuffers, .discardStreamRecvBytes, .endStreamPending] }

/-- The big-endian Application Error Code at the head of the payload. -/
def readErrorCode (payload : Bytes) : Nat :=
  (payload.take 4).foldl (fun code b => code * 256 + b.toNat) 0

/-- `handle_wt_close_session` -/
def handleWtCloseSession (sc : SessionScope) (payload : Bytes) : SessionScope :=
  if payload.length < 4 then sc.resetStreamForMalformedCapsule
  else
    let message := payload.drop 4
    if message.length > kMaxApplicationErrorMessageBytes then
      sc.reportWtError "WT_CLOSE_SESSION message exceeds 1024 bytes"
    else if message.length > 0 ∧ !isValidUtf8 message then
      sc.reportWtError "WT_CLOSE_SESSION message is not valid UTF-8"
    else
      (sc.pushEvent { type := .sessionClosed, errorCode := readErrorCode payload,
                      errorMessage := message }).eraseSession

/-- `handle_wt_drain_session` -/
def handleWtDrainSession (sc : SessionScope) (payload : Bytes) : SessionScope :=
  sc.verifyCapsulePayloadFullyRead 0 payload.length <|
    sc.pushEvent { type := .sessionDraining }

/-! ## Dispatch and framing -/

/-- The `switch` of `process_capsule`. -/
def handleCapsule (sc : SessionScope) (type : Nat) (payload : Bytes) : SessionScope :=
  match CapsuleType.ofNat? type with
  | some .wtStream => sc.handleWtStream false payload
  | some .wtStreamFin => sc.handleWtStream true payload
  | some .wtResetStream => sc.handleWtResetStream payload
  | some .wtStopSending => sc.handleWtStopSending payload
  | some .wtMaxData => sc.handleWtMaxData payload
  | some .wtMaxStreamData => sc.handleWtMaxStreamData payload
  | some .wtMaxStreamsBidi => sc.handleWtMaxStreams true payload
  | some .wtMaxStreamsUni => sc.handleWtMaxStreams false payload
  | some .wtStreamDataBlocked => sc.handleWtStreamDataBlocked payload
  | some .datagram => sc.handleDatagram payload
  | some .wtCloseSession => sc.handleWtCloseSession payload
  | some .wtDrainSession => sc.handleWtDrainSession payload
  | some .wtStreamsBlockedBidi => sc.handleWtStreamsBlocked payload
  | some .wtStreamsBlockedUni => sc.handleWtStreamsBlocked payload
  | some .wtDataBlocked => sc.handleWtDataBlocked payload
  | some .padding => sc
  | none => sc

/-- `process_capsule` -/
def processCapsule (sc : SessionScope) (type : Nat) (payload : Bytes) (wireLen : Nat) :
    SessionScope :=
  ((sc.perform (.dispatch type payload)).perform (.consumeRecvBytes wireLen)).handleCapsule
    type payload

/-- The outcome of one turn of the `while (true)` loop of `process_capsules`: it stops, or it goes
on behind a dispatched capsule. -/
inductive LoopTurn
  | stop (sc : SessionScope)
  | again (sc : SessionScope)

/-- The body of the loop of `process_capsules`. -/
def loopTurn (sc : SessionScope) : LoopTurn :=
  match sc.entry with
  | none => .stop sc
  | some w =>
      if w.isTerminated then .stop (sc.setEntry { w with capsuleBuffer := [] })
      else if w.capsuleBuffer = [] then .stop sc
      else
        match decodeQuicVarint w.capsuleBuffer with
        | none => .stop sc
        | some (typeValue, typeLen) =>
            match decodeQuicVarint (w.capsuleBuffer.drop typeLen) with
            | none => .stop sc
            | some (payloadLen, lengthLen) =>
                if payloadLen > sc.config.wtMaxCapsulePayloadSize then
                  let sc := sc.reportWtError "capsule payload exceeds limit"
                  .stop { sc with entry := sc.entry.map fun w => { w with capsuleBuffer := [] } }
                else
                  let headerLen := typeLen + lengthLen
                  if w.capsuleBuffer.length < headerLen + payloadLen then .stop sc
                  else
                    let payload := (w.capsuleBuffer.drop headerLen).take payloadLen
                    let rest := w.capsuleBuffer.drop (headerLen + payloadLen)
                    .again ((sc.setEntry { w with capsuleBuffer := rest }).processCapsule
                      typeValue payload (headerLen + payloadLen))

/-- The loop of `process_capsules`.  Every dispatch takes at least two bytes out of the buffer,
so the buffer length bounds the number of turns. -/
def processLoop : Nat → SessionScope → SessionScope
  | 0, sc => sc
  | fuel + 1, sc =>
      match sc.loopTurn with
      | .stop sc => sc
      | .again sc => processLoop fuel sc

/-- `process_capsules` -/
def processCapsules (sc : SessionScope) (data : Bytes) : SessionScope :=
  match sc.entry with
  | none => sc
  | some w =>
      let buffer := w.capsuleBuffer ++ data
      processLoop (buffer.length + 1) (sc.setEntry { w with capsuleBuffer := buffer })

/-! ## The rest of the session's receive path -/

/-- The established branch of `on_recv_data_callback`: process the bytes, then give back what an
unfinished capsule holds beyond the threshold. -/
def recvEstablished (sc : SessionScope) (data : Bytes) : SessionScope :=
  let sc := sc.processCapsules data
  match sc.entry with
  | none => sc
  | some w =>
      if !w.isTerminated ∧ w.capsuleBuffer.length > maxUnfinishedCapsuleBytes then
        sc.perform (.consumeRecvBytes (w.capsuleBuffer.length - maxUnfinishedCapsuleBytes))
      else sc

/-- The pre-accept branch of `on_recv_data_callback` when the bytes fit. -/
def bufferPreAccept (sc : SessionScope) (data : Bytes) : SessionScope :=
  { sc with entry := sc.entry.map fun w => { w with capsuleBuffer := w.capsuleBuffer ++ data } }

/-- `handle_end_stream` -/
def handleEndStream (sc : SessionScope) : SessionScope :=
  match sc.entry with
  | none => sc
  | some w =>
      if !w.isEstablished ∨ w.isTerminated then
        if sc.isServer ∧ !w.isEstablished ∧ !w.isTerminated then
          sc.setEntry { w with preAcceptEndStream := true }
        else sc
      else if w.capsuleBuffer ≠ [] then sc.resetStreamForMalformedCapsule
      else (sc.pushEvent { type := .sessionClosed }).eraseSession

/-- `terminate_pre_accept_end_stream_session`, up to the `flush_output` of its first branch. -/
def terminatePreAcceptEndStreamSession (sc : SessionScope) : SessionScope :=
  match sc.entry with
  | none => sc
  | some w =>
      if w.capsuleBuffer ≠ [] then sc.resetStreamForMalformedCapsule
      else (sc.pushEvent { type := .sessionClosed }).eraseSession

/-- `is_established = true` -/
def markEstablished (sc : SessionScope) : SessionScope :=
  { sc with entry := sc.entry.map fun w => { w with isEstablished := true } }

/-- `capsule_buffer.clear()` -/
def clearBuffer (sc : SessionScope) : SessionScope :=
  { sc with entry := sc.entry.map fun w => { w with capsuleBuffer := [] } }

/-- The initial flow-control capsules that `accept_session` and the client's 2xx send. -/
def sendInitialLimits (sc : SessionScope) : SessionScope :=
  ((sc.perform (.capsule (.wtMaxData sc.config.wtInitialMaxData))).perform
    (.capsule (.wtMaxStreamsBidi sc.config.wtInitialMaxStreamsBidi))).perform
    (.capsule (.wtMaxStreamsUni sc.config.wtInitialMaxStreamsUni))

end SessionScope

end H2
end WebTransport
