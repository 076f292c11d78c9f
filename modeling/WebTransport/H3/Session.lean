import WebTransport.H3.Guard

/-!
# H3.Session — the session object `H3Session` (`webtransport_h3.cpp`)

The nghttp3 callbacks, the receive path with its HEADERS frame guard, and the API.  A walk over a
container that the body may shrink is a walk over its elements at the start, as the callbacks of
the closing calls never add to it.
-/

namespace WebTransport
namespace H3

open Bindings

namespace H3Session

variable {N : Nghttp3}

/-- `create_client` and `create_server`, the range checks on the configuration passed. -/
def create (isServer : Bool) (config : H3SessionConfig) (conn : N.Conn) : H3Session N :=
  { isServer := isServer, config := config, conn := conn }

/-- Record what passes between the session and nghttp3. -/
def note (s : H3Session N) (call : NgCall) : H3Session N :=
  { s with ngLog := s.ngLog ++ [(call, s.toBooks)] }

/-- `push_event` -/
def pushEvent (s : H3Session N) (e : H3Event) : H3Session N :=
  { s with events := s.events ++ [e], pushed := s.pushed ++ [e] }

/-- `is_active_session` -/
def isActiveSession (s : H3Session N) (sessionId : Int) : Bool :=
  sessionId ∈ s.sessionIds && sessionId ∉ s.pendingPreAcceptFinSessionIds &&
    sessionId ∉ s.preAcceptFinAcceptedSessionIds

/-! ## Helpers -/

/-- `forget_pre_accept_stream` -/
def forgetPreAcceptStream (s : H3Session N) (streamId : Int) : H3Session N :=
  { s with
    preAcceptBufferedBytes := s.preAcceptBufferedBytes.erase streamId
    preAcceptStreamSessionIds := s.preAcceptStreamSessionIds.erase streamId }

/-- `forget_pre_accept_session` -/
def forgetPreAcceptSession (s : H3Session N) (sessionId : Int) : H3Session N :=
  let streamIds := s.preAcceptStreamSessionIds.keys.filter fun streamId =>
    s.preAcceptStreamSessionIds.find? streamId = some sessionId
  { s with
    preAcceptBufferedBytes := s.preAcceptBufferedBytes.eraseAll streamIds
    preAcceptStreamSessionIds := s.preAcceptStreamSessionIds.eraseAll streamIds }

/-- The streams of a session, as the loops over `stream_info_` find them. -/
def sessionStreams (s : H3Session N) (sessionId : Int) : List Int :=
  s.streamInfo.keys.filter fun streamId =>
    (s.streamInfo.find? streamId).any fun info => info.sessionId = sessionId

/-- `erase_session_streams` -/
def eraseSessionStreams (s : H3Session N) (sessionId : Int) : H3Session N :=
  let streamIds := s.sessionStreams sessionId
  { s with
    streamBuffers := s.streamBuffers.eraseAll streamIds
    streamInfo := s.streamInfo.eraseAll streamIds
    shutdownStreamIds := streamIds.foldl OrdSet.erase s.shutdownStreamIds }

/-- `session_ids_.erase`, `accepted_session_ids_.erase`, `forget_pre_accept_session` -/
def eraseSession (s : H3Session N) (sessionId : Int) : H3Session N :=
  { s with
    sessionIds := s.sessionIds.erase sessionId
    acceptedSessionIds := s.acceptedSessionIds.erase sessionId
    }.forgetPreAcceptSession sessionId

/-- The response headers of a rejection; only 405 carries `allow`. -/
def rejectHeaders (status : Int) : HeaderList :=
  (ascii ":status", ascii (toString status)) ::
    if status = 405 then [(ascii "allow", ascii "CONNECT")] else []

/-- `reject_session` -/
def rejectSession (s : H3Session N) (streamId status : Int) : H3Session N :=
  if !s.isServer then s
  else if s.qpackEncoderStreamId < 0 ∨ s.qpackDecoderStreamId < 0 then s
  else
    let s := s.note (.submitResponse streamId status (rejectHeaders status))
    if status / 100 ≠ 2 then
      { s with
        pendingPreAcceptFinSessionIds := s.pendingPreAcceptFinSessionIds.erase streamId
        }.eraseSession streamId
    else s

/-- `verify_origin` -/
def verifyOrigin (config : H3SessionConfig) (headers : HeaderList) : Bool :=
  if config.allowedOrigins = [] then true
  else
    match (headers.filter fun h => h.1 = ascii "origin").map Prod.snd with
    | [] => true
    | [origin] => if origin = [] then false else config.allowedOrigins.contains origin
    | _ :: _ :: _ => false

/-! ## nghttp3 callbacks -/

/-- `stream_close_cb` -/
def onStreamClose (s : H3Session N) (streamId : Int) (appErrorCode : Nat) : H3Session N :=
  let s := s.forgetPreAcceptStream streamId
  let sessionId :=
    match s.streamInfo.find? streamId with
    | some info => info.sessionId
    | none => -1
  { s with
    streamInfo := s.streamInfo.erase streamId
    shutdownStreamIds := s.shutdownStreamIds.erase streamId
    }.pushEvent { type := .streamClosed, streamId := streamId, errorCode := appErrorCode,
                  sessionId := sessionId }

/-- `stop_sending_cb` and `reset_stream_cb`: nghttp3 asks for a QUIC frame. -/
def onStreamRequest (s : H3Session N) (type : H3EventType) (streamId : Int) (appErrorCode : Nat) :
    H3Session N :=
  let sessionId :=
    match s.streamInfo.find? streamId with
    | some info => info.sessionId
    | none => -1
  s.pushEvent { type := type, streamId := streamId, errorCode := appErrorCode,
                sessionId := sessionId }

def onStreamCallback (s : H3Session N) (c : StreamCallback) : H3Session N :=
  let s := s.note (.callback (.stream c))
  match c with
  | .streamClose streamId appErrorCode => s.onStreamClose streamId appErrorCode
  | .stopSending streamId appErrorCode => s.onStreamRequest .stopSending streamId appErrorCode
  | .resetStream streamId appErrorCode => s.onStreamRequest .resetStream streamId appErrorCode

/-- `recv_data_cb` -/
def onRecvData (s : H3Session N) (streamId : Int) (data : Bytes) : H3Session N :=
  let sessionId :=
    match s.streamInfo.find? streamId with
    | some info => info.sessionId
    | none => -1
  s.pushEvent { type := .streamData, streamId := streamId, data := data, sessionId := sessionId }

/-- `begin_headers_cb` -/
def onBeginHeaders (s : H3Session N) (streamId : Int) : H3Session N :=
  { s with pendingHeaders := s.pendingHeaders.insert streamId [] }

/-- `recv_header_cb` -/
def onRecvHeader (s : H3Session N) (streamId : Int) (name value : Bytes) : H3Session N :=
  { s with
    pendingHeaders := s.pendingHeaders.insert streamId
      ((s.pendingHeaders.find? streamId).getD [] ++ [(name, value)]) }

/-- The request is a WebTransport CONNECT. -/
def isWebtransportConnect (headers : HeaderList) : Bool :=
  headers.contains (ascii ":method", ascii "CONNECT") &&
    headers.any fun h =>
      h.1 = ascii ":protocol" && (h.2 = ascii "webtransport-h3" || h.2 = ascii "webtransport")

/-- The value of the last `:status`, empty without one. -/
def statusOf (headers : HeaderList) : Bytes :=
  (((headers.filter fun h => h.1 = ascii ":status").map Prod.snd).getLast?).getD []

/-- `std::from_chars` into the status code, zero outside 100–599. -/
def rejectedStatus (status : Bytes) : Nat :=
  let digits := status.takeWhile fun c => 48 ≤ c && c ≤ 57
  let code := digits.foldl (fun n c => n * 10 + (c.toNat - 48)) 0
  if digits = [] ∨ code < 100 ∨ code ≥ 600 then 0 else code

/-- The server branch of `end_headers_cb`. -/
def onRequestHeaders (s : H3Session N) (streamId : Int) (headers : HeaderList) : H3Session N :=
  if isWebtransportConnect headers then
    if !verifyOrigin s.config headers then
      let s := s.rejectSession streamId 403
      { s with
        pendingQpackBlockedFinStreamIds := s.pendingQpackBlockedFinStreamIds.erase streamId }
    else
      { s with sessionIds := s.sessionIds.insert streamId
        }.pushEvent { type := .sessionReady, sessionId := streamId, headers := headers }
  else
    { s with
      pendingQpackBlockedFinStreamIds := s.pendingQpackBlockedFinStreamIds.erase streamId
      }.rejectSession streamId 405

/-- The client branch of `end_headers_cb`. -/
def onResponseHeaders (s : H3Session N) (streamId : Int) (headers : HeaderList) : H3Session N :=
  let status := statusOf headers
  if status = [] then s
  else if status.head? ≠ some 50 then
    (s.eraseSession streamId).pushEvent
      { type := .sessionRejected, sessionId := streamId, statusCode := rejectedStatus status }
  else if streamId ∈ s.sessionIds then
    ({ s with acceptedSessionIds := s.acceptedSessionIds.insert streamId
        }.forgetPreAcceptSession streamId).pushEvent { type := .sessionReady, sessionId := streamId }
  else s

/-- `end_headers_cb` -/
def onEndHeaders (s : H3Session N) (streamId : Int) : H3Session N :=
  match s.pendingHeaders.find? streamId with
  | none => s
  | some headers =>
      let s := if s.isServer then s.onRequestHeaders streamId headers
        else s.onResponseHeaders streamId headers
      { s with pendingHeaders := s.pendingHeaders.erase streamId }

/-- `end_stream_cb` -/
def onEndStream (s : H3Session N) (streamId : Int) : H3Session N :=
  if streamId ∈ s.sessionIds then
    { s with pendingFinSessionIds := s.pendingFinSessionIds.insert streamId }
  else s

/-- `shutdown_cb` -/
def onShutdown (s : H3Session N) (id : Int) : H3Session N :=
  s.pushEvent { type := .goAway, goawayId := id.toNat }

/-- `recv_settings2_cb` -/
def onRecvSettings2 (s : H3Session N) (wtEnabled enableConnectProtocol h3Datagram : Nat) :
    H3Session N :=
  { s with
    settingsReceived := true
    peerWtEnabled := wtEnabled = 1
    peerEnableConnectProtocol := enableConnectProtocol = 1
    peerH3Datagram := h3Datagram = 1 }

/-- `recv_wt_data_cb` -/
def onRecvWtData (s : H3Session N) (sessionId streamId : Int) (data : Bytes) : H3Session N :=
  if sessionId ∉ s.sessionIds ∨ sessionId ∈ s.pendingPreAcceptFinSessionIds ∨
      sessionId ∈ s.preAcceptFinAcceptedSessionIds then s
  else
    let s :=
      match s.streamInfo.find? streamId with
      | some _ => s
      | none =>
          { s with
            streamInfo := s.streamInfo.insert streamId
              { streamId := streamId, sessionId := sessionId,
                isUnidirectional := streamId / 2 % 2 ≠ 0, isIncoming := true,
                isWriteRegistered := false } }
    s.pushEvent { type := .streamData, sessionId := sessionId, streamId := streamId, data := data }

/-- The Application Error Message of a WT_CLOSE_SESSION is refused. -/
def badCloseMessage (msg : Bytes) : Bool :=
  decide (msg.length > kMaxApplicationErrorMessageBytes) ||
    (decide (msg.length > 0) && !isValidUtf8 msg)

/-- `recv_wt_close_session_cb`; with a refused message it also fails, and nghttp3 stops there. -/
def onRecvWtCloseSession (s : H3Session N) (sessionId : Int) (wtErrorCode : Nat) (msg : Bytes) :
    H3Session N :=
  if badCloseMessage msg then { s with pendingWtCloseSessionError := some sessionId }
  else
    let s := (s.eraseSessionStreams sessionId).eraseSession sessionId
    let s :=
      if sessionId ∈ s.preAcceptFinAcceptedSessionIds ∨ s.acceptingSessionId = sessionId then
        { s with
          pendingStale2xxDiscardSessionIds := s.pendingStale2xxDiscardSessionIds.insert sessionId }
      else s
    s.pushEvent { type := .sessionClosed, sessionId := sessionId, errorCode := wtErrorCode,
                  errorMessage := msg }

/-- A callback while nghttp3 reads. -/
def onCallback (s : H3Session N) : Callback → H3Session N
  | .stream c => s.onStreamCallback c
  | .recvData streamId data => (s.note (.callback (.recvData streamId data))).onRecvData streamId data
  | .beginHeaders streamId => (s.note (.callback (.beginHeaders streamId))).onBeginHeaders streamId
  | .recvHeader streamId name value =>
      (s.note (.callback (.recvHeader streamId name value))).onRecvHeader streamId name value
  | .endHeaders streamId => (s.note (.callback (.endHeaders streamId))).onEndHeaders streamId
  | .endStream streamId => (s.note (.callback (.endStream streamId))).onEndStream streamId
  | .shutdown id => (s.note (.callback (.shutdown id))).onShutdown id
  | .recvSettings2 wtEnabled enableConnectProtocol h3Datagram =>
      (s.note (.callback (.recvSettings2 wtEnabled enableConnectProtocol h3Datagram))).onRecvSettings2
        wtEnabled enableConnectProtocol h3Datagram
  | .recvWtData sessionId streamId data =>
      (s.note (.callback (.recvWtData sessionId streamId data))).onRecvWtData sessionId streamId data
  | .recvWtCloseSession sessionId wtErrorCode msg =>
      (s.note (.callback (.recvWtCloseSession sessionId wtErrorCode msg))).onRecvWtCloseSession
        sessionId wtErrorCode msg

/-! ### While nghttp3 writes -/

/-- The loop of `read_data_callback` over the buffers of a stream: what stays of them, and what is
offered, with the EOF flag; `none` is `NGHTTP3_ERR_WOULDBLOCK`. -/
def readBuffers : List StreamBuffer → List StreamBuffer × Option (Bytes × Bool)
  | [] => ([], none)
  | front :: rest =>
      if front.data.length - front.offset = 0 then
        if front.fin then (rest, some ([], true))
        else
          let (rest, offered) := readBuffers rest
          (front :: rest, offered)
      else
        ({ front with offset := front.data.length } :: rest,
          some (front.data.drop front.offset, front.fin && rest.isEmpty))

/-- `read_data_callback` -/
def readDataCallback (s : H3Session N) (streamId : Int) : H3Session N × Option (Bytes × Bool) :=
  match s.streamBuffers.find? streamId with
  | none => (s, none)
  | some buffers =>
      let (buffers', offered) := readBuffers buffers
      ({ s with
          streamBuffers :=
            if buffers' = [] ∧ buffers ≠ [] then s.streamBuffers.erase streamId
            else s.streamBuffers.insert streamId buffers' }, offered)

/-- The loop of `acked_stream_data_cb`. -/
def ackBuffers : Nat → List StreamBuffer → List StreamBuffer
  | _, [] => []
  | remaining, front :: rest =>
      if remaining = 0 then front :: rest
      else if front.data.length ≤ remaining then ackBuffers (remaining - front.data.length) rest
      else { front with data := front.data.drop remaining, offset := 0 } :: rest

/-- `acked_stream_data_cb` -/
def onAckedStreamData (s : H3Session N) (streamId : Int) (datalen : Nat) : H3Session N :=
  match s.streamBuffers.find? streamId with
  | none => s
  | some buffers =>
      { s with
        streamBuffers :=
          if ackBuffers datalen buffers = [] then s.streamBuffers.erase streamId
          else s.streamBuffers.insert streamId (ackBuffers datalen buffers) }

def onWriteCallback (s : H3Session N) : WriteCallback → H3Session N
  | .readData streamId => (s.readDataCallback streamId).1
  | .ackedStreamData streamId datalen => s.onAckedStreamData streamId datalen

/-! ## Closing streams -/

/-- `nghttp3_conn_close_stream` with the callbacks it fires. -/
def callCloseStream (s : H3Session N) (streamId : Int) (errorCode : Nat) : H3Session N :=
  let (conn, callbacks) := N.closeStream s.conn streamId errorCode
  callbacks.foldl onStreamCallback { s.note (.closeStream streamId errorCode) with conn := conn }

/-- `close_stream` up to `nghttp3_conn_close_stream`: whether the stream is a CONNECT stream, and the
session it belongs to. -/
def closingSession (s : H3Session N) (streamId : Int) : Bool × Int :=
  let found := s.streamInfo.find? streamId
  let sessionId :=
    match found with
    | some info => info.sessionId
    | none => -1
  let wtSessionId := N.getStreamWtSessionId s.conn streamId
  if sessionId < 0 ∧ wtSessionId ≥ 0 ∧ wtSessionId ∈ s.sessionIds then (false, wtSessionId)
  else if found = none ∧ streamId ∈ s.sessionIds then (true, streamId)
  else (false, sessionId)

/-- The records of a stream that `close_stream` removes first. -/
def forgetStream (s : H3Session N) (streamId : Int) : H3Session N :=
  { s with
    pendingQpackBlockedFinStreamIds := s.pendingQpackBlockedFinStreamIds.erase streamId
    headersGuards := s.headersGuards.erase streamId
    pendingHeaders := s.pendingHeaders.erase streamId }

/-- `close_stream` from the removal of the buffer to the removal of the stream, with
`nghttp3_conn_close_stream` in between. -/
def dropStream (s : H3Session N) (streamId : Int) (errorCode : Nat) : H3Session N :=
  let s :=
    { s with
      streamBuffers := s.streamBuffers.erase streamId
      shutdownStreamIds := s.shutdownStreamIds.erase streamId }
  let s := s.callCloseStream streamId errorCode
  { s with streamInfo := s.streamInfo.erase streamId }

/-- The end of a session whose CONNECT stream is closed. -/
def endSession (s : H3Session N) (sessionId : Int) (errorCode : Nat) : H3Session N :=
  ((s.eraseSessionStreams sessionId).eraseSession sessionId).pushEvent
    { type := .sessionClosed, sessionId := sessionId, errorCode := errorCode }

/-- `close_stream` -/
def closeStream (s : H3Session N) (streamId : Int) (errorCode : Nat) : H3Session N × Int :=
  let s := s.forgetStream streamId
  match s.closingSession streamId with
  | (true, sessionId) =>
      let s := { s with streamBuffers := s.streamBuffers.eraseAll (s.sessionStreams sessionId) }
      ((s.dropStream streamId errorCode).endSession sessionId errorCode, sessionId)
  | (false, sessionId) => (s.dropStream streamId errorCode, sessionId)

/-- `discard_stale_2xx` -/
def discardStale2xx (s : H3Session N) : H3Session N :=
  let s := s.pendingStale2xxDiscardSessionIds.toList.foldl
    (fun s sessionId =>
      ({ s with
          preAcceptFinAcceptedSessionIds := s.preAcceptFinAcceptedSessionIds.erase sessionId
          }.closeStream sessionId 0).1) s
  { s with pendingStale2xxDiscardSessionIds := ∅ }

/-- `handle_wt_close_session_error` -/
def handleWtCloseSessionError (s : H3Session N) (sessionId : Int) : H3Session N :=
  if sessionId ∉ s.sessionIds then s
  else
    (s.closeStream sessionId kH3MessageError).1.pushEvent
      { type := .resetStream, streamId := sessionId, sessionId := sessionId,
        errorCode := kH3MessageError }

/-! ## Receiving -/

/-- `enforce_pre_accept_buffer_limit` -/
def enforcePreAcceptBufferLimit (s : H3Session N) (streamId : Int) (length consumed : Nat)
    (fin : Bool) : H3Session N :=
  if consumed > length then s
  else
    let sessionId := N.getStreamWtSessionId s.conn streamId
    if sessionId < 0 then s
    else if sessionId ∈ s.acceptedSessionIds then s
    else if length - consumed = 0 then s
    else
      let total := (s.preAcceptBufferedBytes.find? streamId).getD 0 + (length - consumed)
      let s :=
        { s with
          preAcceptBufferedBytes := s.preAcceptBufferedBytes.insert streamId total
          preAcceptStreamSessionIds := s.preAcceptStreamSessionIds.insert streamId sessionId }
      if total ≤ s.config.wtPreAcceptBufferLimit then s
      else
        let s := s.forgetPreAcceptStream streamId
        let s :=
          if fin then s
          else
            { s with rejectedPreAcceptStreamIds := s.rejectedPreAcceptStreamIds.insert streamId }
        (s.pushEvent { type := .stopSending, streamId := streamId, sessionId := sessionId,
                       errorCode := wtBufferedStreamRejected }).callCloseStream streamId
          wtBufferedStreamRejected

/-- The branch of `read_from_nghttp3` for a negative result. -/
def readFailed (s : H3Session N) (streamId consumed : Int) : H3Session N :=
  let messageError := decide (consumed = N.errH3MessageError ∧ streamId ∈ s.sessionIds)
  let s := if messageError then s.handleWtCloseSessionError streamId else s
  match s.pendingWtCloseSessionError with
  | some sessionId => { s with pendingWtCloseSessionError := none }.handleWtCloseSessionError sessionId
  | none =>
      if messageError then s
      else
        { s.pushEvent { type := .error, streamId := streamId, errorCode := (-consumed).toNat,
                        errorMessage := N.strerror consumed } with closed := true }

/-- `nghttp3_conn_read_stream2` with the callbacks it fires. -/
def callReadStream2 (s : H3Session N) (streamId : Int) (data : Bytes) (fin : Bool) :
    H3Session N × Int :=
  let (conn, callbacks, consumed) := N.readStream2 s.conn streamId data fin
  (callbacks.foldl onCallback
    { s.note (.readStream2 streamId data fin callbacks consumed) with conn := conn }, consumed)

/-- `read_from_nghttp3` -/
def readFromNghttp3 (s : H3Session N) (streamId : Int) (data : Bytes) (fin : Bool) :
    H3Session N × Int :=
  if streamId ∈ s.rejectedPreAcceptStreamIds then
    (if fin then
      { s with rejectedPreAcceptStreamIds := s.rejectedPreAcceptStreamIds.erase streamId }
    else s, data.length)
  else
    let (s, consumed) := s.callReadStream2 streamId data fin
    if consumed < 0 then (s.readFailed streamId consumed, consumed)
    else (s.enforcePreAcceptBufferLimit streamId data.length consumed.toNat fin, consumed)

/-- The migration loop of `process_after_read`. -/
def migrateBlockedFins (s : H3Session N) : H3Session N :=
  s.pendingQpackBlockedFinStreamIds.toList.foldl
    (fun s streamId =>
      if streamId ∈ s.sessionIds then
        { s with
          pendingPreAcceptFinSessionIds := s.pendingPreAcceptFinSessionIds.insert streamId
          pendingQpackBlockedFinStreamIds := s.pendingQpackBlockedFinStreamIds.erase streamId }
      else s) s

/-- The loop of `process_after_read` over `pending_fin_session_ids_`. -/
def closeFinSessions (s : H3Session N) : H3Session N :=
  let s := s.pendingFinSessionIds.toList.foldl (fun s sessionId => (s.closeStream sessionId 0).1) s
  { s with pendingFinSessionIds := ∅ }

/-- The two detections of `process_after_read`: a FIN before acceptance, and a FIN while the header
block is still blocked. -/
def detectFin (s : H3Session N) (streamId : Int) (fin : Bool) : H3Session N :=
  let s :=
    if fin ∧ s.isServer ∧ streamId ∈ s.sessionIds ∧ streamId ∉ s.pendingFinSessionIds then
      { s with
        pendingPreAcceptFinSessionIds := s.pendingPreAcceptFinSessionIds.insert streamId }
    else s
  if fin ∧ s.isServer ∧ streamId ∉ s.sessionIds ∧ (s.pendingHeaders.find? streamId).isSome then
    { s with
      pendingQpackBlockedFinStreamIds := s.pendingQpackBlockedFinStreamIds.insert streamId }
  else s

/-- `process_after_read` -/
def processAfterRead (s : H3Session N) (streamId : Int) (fin : Bool) : H3Session N :=
  (s.detectFin streamId fin).migrateBlockedFins.closeFinSessions.discardStale2xx

/-- The body of the second loop of `flush_unblocked_held_data`. -/
def flushHeld (s : H3Session N) (streamId : Int) : H3Session N :=
  if s.closed then s
  else
    match s.headersGuards.find? streamId with
    | none => s
    | some guard =>
        if guard.heldData = [] then s
        else if (s.pendingHeaders.find? streamId).isSome then s
        else
          let s :=
            { s with
              headersGuards := s.headersGuards.insert streamId
                { guard with heldData := [], heldFin := false } }
          (s.readFromNghttp3 streamId guard.heldData guard.heldFin).1.processAfterRead streamId
            guard.heldFin

/-- `flush_unblocked_held_data` -/
def flushUnblockedHeldData (s : H3Session N) : H3Session N :=
  let targets := s.headersGuards.keys.filter fun streamId =>
    (s.headersGuards.find? streamId).any HeadersFrameGuard.mayFlush &&
      (s.pendingHeaders.find? streamId).isNone
  targets.foldl flushHeld s

/-! ### `receive_stream_data` -/

/-- `receive_stream_data` behind its checks, for a stream that the guard lets through. -/
def receiveUnguarded (s : H3Session N) (streamId : Int) (data : Bytes) (fin : Bool) :
    H3Session N × Nat :=
  let (s, consumed) := s.readFromNghttp3 streamId data fin
  ((s.processAfterRead streamId fin).flushUnblockedHeldData, consumed.toNat)

/-- `receive_stream_data` behind its checks, for a guarded stream. -/
def receiveGuarded (s : H3Session N) (streamId : Int) (data : Bytes) (fin : Bool) :
    H3Session N × Nat :=
  let guard := (s.headersGuards.find? streamId).getD {}
  let blocked := (s.pendingHeaders.find? streamId).isSome
  let (guard, verdict) := guard.takeData blocked data fin
  let s := { s with headersGuards := s.headersGuards.insert streamId guard }
  match verdict with
  | .park => (s.processAfterRead streamId false, data.length)
  | .hold => ((s.processAfterRead streamId fin).flushUnblockedHeldData, data.length)
  | .forward bytes forwardFin =>
      let read : H3Session N × Int :=
        if bytes ≠ [] ∨ forwardFin then s.readFromNghttp3 streamId bytes forwardFin else (s, 0)
      ((read.1.processAfterRead streamId forwardFin).flushUnblockedHeldData,
        if read.2 < 0 then 0 else data.length)

/-- The streams that `receive_stream_data` passes by the guard. -/
def bypassGuard (s : H3Session N) (streamId : Int) (data : Bytes) : Bool :=
  decide (data = []) || decide (streamId % 4 ≠ 0) || (s.streamInfo.find? streamId).isSome

/-- `receive_stream_data` -/
def receiveStreamData (s : H3Session N) (streamId : Int) (data : Bytes) (fin : Bool) :
    Except String (H3Session N × Nat) :=
  if streamId < 0 ∨ streamId > maxVarint then .error "stream_id out of range"
  else if s.closed then .ok (s, 0)
  else if streamId = s.controlStreamId ∨ streamId = s.qpackEncoderStreamId ∨
      streamId = s.qpackDecoderStreamId then .ok (s, 0)
  else if streamId ∈ s.rejectedPreAcceptStreamIds then
    .ok (if fin then
        { s with rejectedPreAcceptStreamIds := s.rejectedPreAcceptStreamIds.erase streamId }
      else s, data.length)
  else if s.bypassGuard streamId data then .ok (s.receiveUnguarded streamId data fin)
  else .ok (s.receiveGuarded streamId data fin)

/-- `receive_datagram` -/
def receiveDatagram (s : H3Session N) (data : Bytes) : H3Session N :=
  if data = [] then s
  else if getUvarintlen data = 0 ∨ getUvarintlen data > data.length then s
  else
    let sessionId : Int := (getUvarint data * 4 : Nat)
    if sessionId > maxVarint then
      s.pushEvent { type := .error, errorCode := 0x0108,
                    errorMessage := ascii "invalid session ID in datagram" }
    else if !s.isActiveSession sessionId then s
    else
      s.pushEvent { type := .datagram, sessionId := sessionId, data := data.drop (getUvarintlen data) }

/-! ## Sending -/

/-- The loop of `get_streams_to_send`. -/
def writeLoop : Nat → H3Session N → List (Int × Bytes × Bool) →
    H3Session N × List (Int × Bytes × Bool)
  | 0, s, result => (s, result)
  | iterations + 1, s, result =>
      let (conn, callbacks, w) := N.writevStream s.conn
      let s := callbacks.foldl onWriteCallback { s with conn := conn }
      if w.sveccnt < 0 then
        ({ s with closed := true }.pushEvent
          { type := .error, errorCode := (-w.sveccnt).toNat,
            errorMessage := N.strerror w.sveccnt }, result)
      else if w.streamId < 0 then (s, result)
      else if w.data = [] ∧ !w.fin then (s, result)
      else
        let (conn, callbacks) := N.addOffset s.conn w.streamId w.data.length
        writeLoop iterations (callbacks.foldl onWriteCallback { s with conn := conn })
          (result ++ [(w.streamId, w.data, w.fin)])

/-- The body of the deferred close at the end of `get_streams_to_send`. -/
def closeFlushed (s : H3Session N) (sessionId : Int) : H3Session N :=
  let flushed := N.isStreamFlushed s.conn sessionId
  let s := s.note (.isStreamFlushed sessionId flushed)
  if flushed then
    ({ s with
        preAcceptFinAcceptedSessionIds := s.preAcceptFinAcceptedSessionIds.erase sessionId
        }.closeStream sessionId 0).1
  else s

/-- `get_streams_to_send` -/
def getStreamsToSend (s : H3Session N) : H3Session N × List (Int × Bytes × Bool) :=
  if s.closed then (s, [])
  else
    let (s, result) := writeLoop 1024 s []
    (s.preAcceptFinAcceptedSessionIds.toList.foldl closeFlushed s, result)

/-- `get_datagrams_to_send` -/
def getDatagramsToSend (s : H3Session N) : H3Session N × List Bytes :=
  ({ s with pendingDatagrams := [] }, s.pendingDatagrams)

/-! ## API -/

/-- `is_valid_local_uni_stream_id` -/
def isValidLocalUniStreamId (s : H3Session N) (streamId : Int) : Bool :=
  if streamId < 0 ∨ streamId > maxVarint then false
  else if s.isServer then streamId % 4 = 3 else streamId % 4 = 2

/-- `bind_control_stream` -/
def bindControlStream (s : H3Session N) (streamId : Int) : H3Session N :=
  if s.isValidLocalUniStreamId streamId then { s with controlStreamId := streamId } else s

/-- `bind_qpack_encoder_stream` -/
def bindQpackEncoderStream (s : H3Session N) (streamId : Int) : H3Session N :=
  if s.isValidLocalUniStreamId streamId then { s with qpackEncoderStreamId := streamId } else s

/-- `bind_qpack_decoder_stream` -/
def bindQpackDecoderStream (s : H3Session N) (streamId : Int) : H3Session N :=
  if s.isValidLocalUniStreamId streamId then { s with qpackDecoderStreamId := streamId } else s

/-- The QPACK streams that nghttp3 asserts are there. -/
def qpackBound (s : H3Session N) : Bool :=
  decide (s.qpackEncoderStreamId ≥ 0) && decide (s.qpackDecoderStreamId ≥ 0)

/-- The request headers of `connect`. -/
def connectHeaders (authority path origin : Bytes) : HeaderList :=
  [(ascii ":method", ascii "CONNECT"), (ascii ":scheme", ascii "https"),
    (ascii ":authority", authority), (ascii ":path", path),
    (ascii ":protocol", ascii "webtransport-h3")] ++
  if origin ≠ [] then [(ascii "origin", origin)] else []

/-- `connect` -/
def connect (s : H3Session N) (streamId : Int) (url origin : Bytes) : H3Session N × Bool :=
  if s.isServer then (s, false)
  else if !s.qpackBound then (s, false)
  else if streamId < 0 ∨ streamId > maxVarint ∨ streamId % 4 ≠ 0 then (s, false)
  else
    match parseAuthorityPath url with
    | none => (s, false)
    | some (authority, path) =>
        let headers := connectHeaders authority path origin
        let (conn, rv) := N.submitWtRequest s.conn streamId headers
        let s := { s.note (.submitWtRequest streamId headers rv) with conn := conn }
        if rv ≠ 0 then (s, false)
        else ({ s with sessionIds := s.sessionIds.insert streamId }, true)

/-- The response headers of `accept_session`. -/
def acceptHeaders : HeaderList := [(ascii ":status", ascii "200")]

/-- `nghttp3_conn_server_confirm_wt_session` with the callbacks it fires. -/
def callConfirm (s : H3Session N) (streamId : Int) : H3Session N × Int :=
  let (conn, callbacks, rv) := N.serverConfirmWtSession s.conn streamId
  let s :=
    { s.note (.serverConfirmWtSession streamId callbacks rv) with
      conn := conn, acceptingSessionId := streamId }
  ({ callbacks.foldl onCallback s with acceptingSessionId := -1 }, rv)

/-- The branch of `accept_session` for a failed confirmation. -/
def confirmFailed (s : H3Session N) (streamId rv : Int) (finDetected : Bool) : H3Session N :=
  let s :=
    if finDetected then
      { s with
        preAcceptFinAcceptedSessionIds := s.preAcceptFinAcceptedSessionIds.erase streamId
        pendingPreAcceptFinSessionIds := s.pendingPreAcceptFinSessionIds.insert streamId }
    else s
  let s :=
    if rv = N.errH3MessageError ∨ s.pendingWtCloseSessionError.isSome then
      { s with pendingWtCloseSessionError := none }.handleWtCloseSessionError
        (s.pendingWtCloseSessionError.getD streamId)
    else s
  s.discardStale2xx

/-- The record of a FIN before acceptance moves on to the accepted sessions. -/
def takeOverFin (s : H3Session N) (streamId : Int) : H3Session N :=
  if streamId ∈ s.pendingPreAcceptFinSessionIds then
    { s with
      pendingPreAcceptFinSessionIds := s.pendingPreAcceptFinSessionIds.erase streamId
      preAcceptFinAcceptedSessionIds := s.preAcceptFinAcceptedSessionIds.insert streamId }
  else s

/-- The end of `accept_session`: a session that survived the confirmation is accepted. -/
def markAccepted (s : H3Session N) (streamId : Int) : H3Session N :=
  if streamId ∈ s.sessionIds then
    { s with acceptedSessionIds := s.acceptedSessionIds.insert streamId
      }.forgetPreAcceptSession streamId
  else s.forgetPreAcceptSession streamId

/-- `accept_session` behind the submitted 2xx. -/
def confirmAccepted (s : H3Session N) (streamId : Int) : H3Session N × Bool :=
  let finDetected := decide (streamId ∈ s.pendingPreAcceptFinSessionIds)
  let (s, rv) := (s.takeOverFin streamId).callConfirm streamId
  if rv ≠ 0 then (s.confirmFailed streamId rv finDetected, false)
  else (s.discardStale2xx.markAccepted streamId, true)

/-- `accept_session` -/
def acceptSession (s : H3Session N) (streamId : Int) : H3Session N × Bool :=
  if !s.isServer then (s, false)
  else if !s.qpackBound then (s, false)
  else if streamId ∉ s.sessionIds then (s, false)
  else
    let (conn, rv) := N.submitWtResponse s.conn streamId acceptHeaders
    let s := { s.note (.submitWtResponse streamId acceptHeaders rv) with conn := conn }
    if rv ≠ 0 then (s, false) else s.confirmAccepted streamId

/-- `open_stream` -/
def openStream (s : H3Session N) (sessionId streamId : Int) (isUnidirectional : Bool) :
    H3Session N × Bool :=
  if streamId < 0 ∨ streamId > maxVarint then (s, false)
  else if sessionId < 0 ∨ sessionId > maxVarint then (s, false)
  else if !s.isActiveSession sessionId then (s, false)
  else if (if s.isServer then streamId % 4 ≠ 1 ∧ streamId % 4 ≠ 3
      else streamId % 4 ≠ 0 ∧ streamId % 4 ≠ 2) then (s, false)
  else if (s.streamInfo.find? streamId).isSome then (s, false)
  else if streamId ∈ s.sessionIds ∨ streamId = s.controlStreamId ∨
      streamId = s.qpackEncoderStreamId ∨ streamId = s.qpackDecoderStreamId then (s, false)
  else
    let (conn, rv) := N.openWtDataStream s.conn sessionId streamId
    let s := { s.note (.openWtDataStream sessionId streamId rv) with conn := conn }
    if rv ≠ 0 then (s, false)
    else
      ({ s with
          streamInfo := s.streamInfo.insert streamId
            { streamId := streamId, sessionId := sessionId, isUnidirectional := isUnidirectional,
              isIncoming := false, isWriteRegistered := true } }, true)

/-- The end of `send_stream_data`: queue the data and wake the stream. -/
def queueStreamData (s : H3Session N) (streamId : Int) (data : Bytes) (fin : Bool) : H3Session N :=
  { s with
    streamBuffers := s.streamBuffers.insert streamId
      ((s.streamBuffers.find? streamId).getD [] ++ [({ data := data, fin := fin } : StreamBuffer)])
    }.note (.resumeStream streamId)

/-- `send_stream_data` -/
def sendStreamData (s : H3Session N) (streamId : Int) (data : Bytes) (fin : Bool) : H3Session N :=
  if streamId ∈ s.shutdownStreamIds then s
  else
    match s.streamInfo.find? streamId with
    | none => s
    | some info =>
        if info.isWriteRegistered then s.queueStreamData streamId data fin
        else if info.isUnidirectional then s
        else
          let (conn, rv) := N.openWtDataStream s.conn info.sessionId streamId
          let s := { s.note (.openWtDataStream info.sessionId streamId rv) with conn := conn }
          if rv ≠ 0 then s
          else
            { s with
              streamInfo := s.streamInfo.insert streamId { info with isWriteRegistered := true }
              }.queueStreamData streamId data fin

/-- `send_datagram` -/
def sendDatagram (s : H3Session N) (sessionId : Int) (data : Bytes) : H3Session N :=
  if !s.isActiveSession sessionId then s
  else
    { s with
      pendingDatagrams := s.pendingDatagrams ++ [varintBytes (sessionId.toNat / 4) ++ data] }

/-- `map_send_error_code` -/
def mapSendErrorCode (s : H3Session N) (streamId : Int) (errorCode : Nat) : Except String Nat :=
  if errorCode > kMaxApplicationErrorCode then
    .error "application error code out of uint32 range"
  else if streamId ∈ s.sessionIds then .ok errorCode
  else (Cpp.webtransportCodeToHttpCode (UInt64.ofNat errorCode)).map UInt64.toNat

/-- `reset_stream` -/
def resetStream (s : H3Session N) (streamId : Int) (errorCode : Nat) : Except String (H3Session N) :=
  match s.mapSendErrorCode streamId errorCode with
  | .error message => .error message
  | .ok wireErrorCode => .ok (s.closeStream streamId wireErrorCode).1

/-- `shutdown_stream_write` -/
def shutdownStreamWrite (s : H3Session N) (streamId : Int) : H3Session N :=
  if s.closed then s
  else
    { s.note (.shutdownStreamWrite streamId) with
      shutdownStreamIds := s.shutdownStreamIds.insert streamId }

/-- The truncation loop of `close_session`. -/
def trimLoop (message : Bytes) : Nat → Bytes
  | 0 => []
  | len + 1 =>
      if isValidUtf8 (message.take (len + 1)) then message.take (len + 1) else trimLoop message len

/-- The message that `close_session` sends. -/
def trimmedMessage (message : Bytes) : Bytes :=
  if message.length > kMaxApplicationErrorMessageBytes then
    trimLoop message kMaxApplicationErrorMessageBytes
  else message

/-- `close_session` -/
def closeSession (s : H3Session N) (sessionId : Int) (errorCode : Nat) (message : Bytes) :
    H3Session N :=
  let trimmed := trimmedMessage message
  let (conn, callbacks, rv) := N.closeWtSession s.conn sessionId (errorCode % 2 ^ 32) trimmed
  let s := callbacks.foldl onStreamCallback { s with conn := conn }
  let s := s.note (.closeWtSession sessionId (errorCode % 2 ^ 32) trimmed rv)
  if rv ≠ 0 then s
  else
    ((s.eraseSessionStreams sessionId).eraseSession sessionId).pushEvent
      { type := .sessionClosed, sessionId := sessionId, errorCode := errorCode,
        errorMessage := trimmed }

/-- `next_event` -/
def nextEvent (s : H3Session N) : H3Session N × Option H3Event :=
  match s.events with
  | [] => (s, none)
  | e :: rest => ({ s with events := rest }, some e)

/-! ## Runs -/

/-- The API of an `H3Session`; what nghttp3 does inside a call is up to `N`. -/
inductive Input
  | receiveStreamData (streamId : Int) (data : Bytes) (fin : Bool)
  | receiveDatagram (data : Bytes)
  | getStreamsToSend
  | getDatagramsToSend
  | bindControlStream (streamId : Int)
  | bindQpackEncoderStream (streamId : Int)
  | bindQpackDecoderStream (streamId : Int)
  | connect (streamId : Int) (url origin : Bytes)
  | acceptSession (streamId : Int)
  | rejectSession (streamId status : Int)
  | openStream (sessionId streamId : Int) (isUnidirectional : Bool)
  | sendStreamData (streamId : Int) (data : Bytes) (fin : Bool)
  | sendDatagram (sessionId : Int) (data : Bytes)
  | closeStream (streamId : Int) (errorCode : Nat)
  | resetStream (streamId : Int) (errorCode : Nat)
  | shutdownStreamWrite (streamId : Int)
  | closeSession (sessionId : Int) (errorCode : Nat) (message : Bytes)
  | nextEvent
  deriving DecidableEq

/-- One API call; a call that throws leaves the state as it is. -/
def step (s : H3Session N) : Input → H3Session N
  | .receiveStreamData streamId data fin =>
      match s.receiveStreamData streamId data fin with
      | .ok (s', _) => s'
      | .error _ => s
  | .receiveDatagram data => s.receiveDatagram data
  | .getStreamsToSend => s.getStreamsToSend.1
  | .getDatagramsToSend => s.getDatagramsToSend.1
  | .bindControlStream streamId => s.bindControlStream streamId
  | .bindQpackEncoderStream streamId => s.bindQpackEncoderStream streamId
  | .bindQpackDecoderStream streamId => s.bindQpackDecoderStream streamId
  | .connect streamId url origin => (s.connect streamId url origin).1
  | .acceptSession streamId => (s.acceptSession streamId).1
  | .rejectSession streamId status => s.rejectSession streamId status
  | .openStream sessionId streamId isUnidirectional =>
      (s.openStream sessionId streamId isUnidirectional).1
  | .sendStreamData streamId data fin => s.sendStreamData streamId data fin
  | .sendDatagram sessionId data => s.sendDatagram sessionId data
  | .closeStream streamId errorCode => (s.closeStream streamId errorCode).1
  | .resetStream streamId errorCode =>
      match s.resetStream streamId errorCode with
      | .ok s' => s'
      | .error _ => s
  | .shutdownStreamWrite streamId => s.shutdownStreamWrite streamId
  | .closeSession sessionId errorCode message => s.closeSession sessionId errorCode message
  | .nextEvent => s.nextEvent.1

/-- A whole run. -/
def run (s : H3Session N) (inputs : List Input) : H3Session N := inputs.foldl step s

end H3Session

end H3
end WebTransport
