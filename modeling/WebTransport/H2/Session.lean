import WebTransport.Bindings.HeaderConvert
import WebTransport.H2.Capsules

/-!
# H2.Session — the connection object `H2Session` (`webtransport_h2.cpp`)

The state of an `H2Session`, its API and its nghttp2 callbacks.  nghttp2 itself is outside: what it
returns from a call is an input of the step, what the session tells it is recorded in `ngLog`.
Where the code calls `flush_output`, the callbacks that nghttp2 fires while writing are an input
as well.  `conn_` is set once at creation and never null afterwards, so the null checks are left
out.
-/

namespace WebTransport
namespace H2

open Bindings

/-! ## State -/

/-- `H2StreamData` -/
structure H2StreamData where
  data : Bytes
  offset : Nat := 0
  deriving DecidableEq

/-- The calls an `H2Session` makes into nghttp2. -/
inductive NgCall
  | extendMaxOffset (size : Nat)
  | extendMaxStreamOffset (streamId : Int) (size : Nat)
  | shutdownStream (streamId : Int) (errorCode : Nat)
  | submitRequest (headers : HeaderList)
  | submitResponse (streamId : Int) (headers : HeaderList)
  deriving DecidableEq

/-- A failing nghttp2 return value and its `nghttp2_strerror`. -/
structure NgError where
  code : Nat
  message : Bytes
  deriving DecidableEq

/-- The values of the peer's SETTINGS that WebTransport reads. -/
structure PeerSettings where
  enableConnectProtocol : Bool := false
  wtEnabled : Bool := false
  wtInitialMaxData : Nat := 0
  wtInitialMaxStreamDataUni : Nat := 0
  wtInitialMaxStreamDataBidiLocal : Nat := 0
  wtInitialMaxStreamDataBidiRemote : Nat := 0
  wtInitialMaxStreamsUni : Nat := 0
  wtInitialMaxStreamsBidi : Nat := 0
  deriving DecidableEq

/-- `H2Session`; `trace` and `ngLog` record what was done and are never read by the code. -/
structure H2Session where
  isServer : Bool
  config : H2SessionConfig
  events : List H2Event := []
  http2StreamBuffers : OrdMap Int (List H2StreamData) := ∅
  http2StreamDataSent : OrdMap Int Nat := ∅
  connRecvWindowSize : Int := 0
  connConsumedSize : Int := 0
  unconsumedRecvBytes : OrdMap Int Nat := ∅
  pendingHeaders : OrdMap Int HeaderList := ∅
  wtSessions : OrdMap Int WtSessionInfo := ∅
  endStreamPending : Finset Int := ∅
  peer : PeerSettings := {}
  closed : Bool := false
  goawayReceived : Bool := false
  trace : List (Int × Effect) := []
  ngLog : List NgCall := []
  deriving DecidableEq

/-- `conn_local_window_size_` (`NGHTTP2_INITIAL_WINDOW_SIZE`); the code never changes it. -/
def connLocalWindowSize : Int := 65535

namespace H2Session

/-- `create_client` and `create_server`, up to the nghttp2 handshake. -/
def create (isServer : Bool) (config : H2SessionConfig) : Except String H2Session :=
  match config.check with
  | .error message => .error message
  | .ok () => .ok { isServer := isServer, config := config }

/-! ## Connection-level receive credit -/

def callNg (s : H2Session) (call : NgCall) : H2Session :=
  { s with ngLog := s.ngLog ++ [call] }

/-- `consume_connection_recv_bytes` -/
def consumeConnectionRecvBytes (s : H2Session) (size : Nat) : H2Session :=
  if size = 0 then s
  else
    let consumed := s.connConsumedSize + size
    let recvSize := min consumed s.connRecvWindowSize
    if recvSize > 0 ∧ recvSize ≥ connLocalWindowSize / 2 then
      { s.callNg (.extendMaxOffset recvSize.toNat) with
        connRecvWindowSize := s.connRecvWindowSize - recvSize
        connConsumedSize := consumed - recvSize }
    else { s with connConsumedSize := consumed }

/-- `consume_recv_bytes` -/
def consumeRecvBytes (s : H2Session) (streamId : Int) (size : Nat) : H2Session :=
  if size = 0 then s
  else
    match s.unconsumedRecvBytes.find? streamId with
    | none => s
    | some unconsumed =>
        let consumeSize := min size unconsumed
        if consumeSize = 0 then s
        else
          let s := s.callNg (.extendMaxStreamOffset streamId consumeSize)
          let s := s.consumeConnectionRecvBytes consumeSize
          let remaining := unconsumed - consumeSize
          { s with
            unconsumedRecvBytes :=
              if remaining = 0 then s.unconsumedRecvBytes.erase streamId
              else s.unconsumedRecvBytes.insert streamId remaining }

/-- `discard_stream_recv_bytes` -/
def discardStreamRecvBytes (s : H2Session) (streamId : Int) : H2Session :=
  match s.unconsumedRecvBytes.find? streamId with
  | none => s
  | some remaining =>
      { s with unconsumedRecvBytes := s.unconsumedRecvBytes.erase streamId
        }.consumeConnectionRecvBytes remaining

/-! ## Running a session method -/

/-- Carry out one effect of a session method. -/
def perform (sessionId : Int) (s : H2Session) : Effect → H2Session
  | .event e => { s with events := s.events ++ [e] }
  | .capsule c =>
      { s with
        http2StreamBuffers := s.http2StreamBuffers.insert sessionId
          ((s.http2StreamBuffers.find? sessionId).getD [] ++
            [{ data := encodeCapsule c.type.toNat c.payload }]) }
  | .consumeRecvBytes size => s.consumeRecvBytes sessionId size
  | .discardStreamRecvBytes => s.discardStreamRecvBytes sessionId
  | .eraseStreamBuffers => { s with http2StreamBuffers := s.http2StreamBuffers.erase sessionId }
  | .endStreamPending => { s with endStreamPending := insert sessionId s.endStreamPending }
  | .shutdownStream errorCode => s.callNg (.shutdownStream sessionId errorCode)
  | .dispatch _ _ => s

/-- The scope of a session id. -/
def scope (s : H2Session) (sessionId : Int) : SessionScope :=
  { isServer := s.isServer, config := s.config, sessionId := sessionId,
    entry := s.wtSessions.find? sessionId }

/-- Write back the entry of a scope, record its effects and carry them out. -/
def commit (s : H2Session) (sc : SessionScope) : H2Session :=
  sc.effects.foldl (perform sc.sessionId)
    { s with
      wtSessions :=
        match sc.entry with
        | none => s.wtSessions.erase sc.sessionId
        | some w => s.wtSessions.insert sc.sessionId w
      trace := s.trace ++ sc.effects.map fun e => (sc.sessionId, e) }

/-- Run a session method on the entry of a session id. -/
def inScope (s : H2Session) (sessionId : Int) (f : SessionScope → SessionScope) : H2Session :=
  s.commit (f (s.scope sessionId))

/-! ## WebTransport-Init and the request headers -/

/-- The `u`, `bl` and `br` members of a WebTransport-Init value; `none` is `has_… == false`. -/
structure InitLimits where
  u : Option Nat := none
  bl : Option Nat := none
  br : Option Nat := none
  deriving DecidableEq

/-- `encode_webtransport_init` -/
def encodeWebtransportInit (config : H2SessionConfig) : Bytes :=
  let value := ascii (toString config.wtInitialMaxStreamData)
  ascii "u=" ++ value ++ ascii ", bl=" ++ value ++ ascii ", br=" ++ value

def isBlank (c : UInt8) : Bool := c = 32 || c = 9

def isDigit (c : UInt8) : Bool := 48 ≤ c && c ≤ 57

/-- `std::stoull` on a string of digits: `none` is `std::out_of_range`. -/
def stoull (digits : Bytes) : Option Nat :=
  let value := digits.foldl (fun n c => n * 10 + (c.toNat - 48)) 0
  if value < 2 ^ 64 then some value else none

/-- Record one member; a repeated known key fails, an unknown key is ignored. -/
def InitLimits.record (limits : InitLimits) (key : Bytes) (parsed : Nat) : Option InitLimits :=
  if key = ascii "u" then
    if limits.u.isSome then none else some { limits with u := some parsed }
  else if key = ascii "bl" then
    if limits.bl.isSome then none else some { limits with bl := some parsed }
  else if key = ascii "br" then
    if limits.br.isSome then none else some { limits with br := some parsed }
  else some limits

/-- The outer loop of `parse_webtransport_init`, on the text from `pos` on.  A turn that comes
back for more has moved past a member, so the length bounds the turns. -/
def parseInitLoop : Nat → Bytes → InitLimits → Option InitLimits
  | 0, _, limits => some limits
  | fuel + 1, value, limits =>
      let value := value.dropWhile fun c => isBlank c || c = 44
      if value = [] then some limits
      else
        let key := value.takeWhile fun c => c ≠ 61 && c ≠ 44 && !isBlank c
        match (value.drop key.length).dropWhile isBlank with
        | [] => if key ≠ [] then none else some limits
        | c :: rest =>
            if c ≠ 61 then
              if key ≠ [] then none else parseInitLoop fuel (c :: rest) limits
            else
              let rest := rest.dropWhile isBlank
              let digits := rest.takeWhile fun c => c ≠ 44 && c ≠ 59 && !isBlank c
              if !digits.all isDigit ∨ digits = [] then none
              else
                match stoull digits with
                | none => none
                | some parsed =>
                    match limits.record key parsed with
                    | none => none
                    | some limits =>
                        parseInitLoop fuel ((rest.drop digits.length).dropWhile (· ≠ 44)) limits

/-- `parse_webtransport_init` -/
def parseWebtransportInit (value : Bytes) : Option InitLimits :=
  parseInitLoop (value.length + 1) value {}

/-- `record_received_limit` -/
def recordReceivedLimit (received : Option Nat) (value : Nat) : Option Nat :=
  match received with
  | none => some value
  | some old => if value > old then some value else some old

/-- How both ends fold a parsed WebTransport-Init into the session's initial stream limits. -/
def applyInitLimits (w : WtSessionInfo) (limits : InitLimits) : WtSessionInfo :=
  let w :=
    match limits.u with
    | none => w
    | some u =>
        { w with
          peerMaxStreamDataUni := max w.peerMaxStreamDataUni u
          receivedInitialMaxStreamDataUni :=
            recordReceivedLimit w.receivedInitialMaxStreamDataUni u }
  let w :=
    match limits.bl with
    | none => w
    | some bl =>
        { w with
          peerMaxStreamDataBidiRemote := max w.peerMaxStreamDataBidiRemote bl
          receivedInitialMaxStreamDataBidiRemote :=
            recordReceivedLimit w.receivedInitialMaxStreamDataBidiRemote bl }
  match limits.br with
  | none => w
  | some br =>
      { w with
        peerMaxStreamDataBidiLocal := max w.peerMaxStreamDataBidiLocal br
        receivedInitialMaxStreamDataBidiLocal :=
          recordReceivedLimit w.receivedInitialMaxStreamDataBidiLocal br }

/-- A SETTINGS value as a received limit: zero counts as not received. -/
def settingsLimit (value : Nat) : Option Nat :=
  if value > 0 then some value else none

/-- The fresh entry that `apply_peer_initial_flow_control` fills in. -/
def newSession (peer : PeerSettings) (config : H2SessionConfig) (sessionId : Int) :
    WtSessionInfo :=
  { http2StreamId := sessionId
    maxDataLocal := peer.wtInitialMaxData
    maxDataRemote := config.wtInitialMaxData
    receivedMaxData := settingsLimit peer.wtInitialMaxData
    maxStreamsBidiLocal := peer.wtInitialMaxStreamsBidi
    maxStreamsUniLocal := peer.wtInitialMaxStreamsUni
    receivedMaxStreamsBidi := settingsLimit peer.wtInitialMaxStreamsBidi
    receivedMaxStreamsUni := settingsLimit peer.wtInitialMaxStreamsUni
    maxStreamsBidiRemote := config.wtInitialMaxStreamsBidi
    maxStreamsUniRemote := config.wtInitialMaxStreamsUni
    peerMaxStreamDataUni := peer.wtInitialMaxStreamDataUni
    receivedInitialMaxStreamDataUni := settingsLimit peer.wtInitialMaxStreamDataUni
    -- Streams opened here send under the peer's BIDI_REMOTE, the peer's under its BIDI_LOCAL.
    peerMaxStreamDataBidiLocal := peer.wtInitialMaxStreamDataBidiRemote
    receivedInitialMaxStreamDataBidiLocal :=
      settingsLimit peer.wtInitialMaxStreamDataBidiRemote
    peerMaxStreamDataBidiRemote := peer.wtInitialMaxStreamDataBidiLocal
    receivedInitialMaxStreamDataBidiRemote :=
      settingsLimit peer.wtInitialMaxStreamDataBidiLocal }

/-- `verify_origin` -/
def verifyOrigin (config : H2SessionConfig) (headers : HeaderList) : Bool :=
  if config.allowedOrigins = [] then true
  else
    match (headers.filter fun h => h.1 = ascii "origin").map Prod.snd with
    | [] => true
    | [origin] => if origin = [] then false else config.allowedOrigins.contains origin
    | _ :: _ :: _ => false

/-- The value of the last header with the given name. -/
def lastHeader (headers : HeaderList) (name : Bytes) : Option Bytes :=
  ((headers.filter fun h => h.1 = name).map Prod.snd).getLast?

/-! ## Rejecting a session -/

/-- What `reject_session` does to the session behind `nghttp2_conn_submit_response`. -/
def reject (status : Int) (rv : Option NgError) (sc : SessionScope) : SessionScope :=
  let sc :=
    match rv with
    | none => sc
    | some err =>
        sc.pushEvent { type := .error, streamId := sc.sessionId.toNat, errorCode := err.code,
                       errorMessage := err.message }
  if status / 100 ≠ 2 then
    { sc with entry := none }.perform .discardStreamRecvBytes
  else
    match sc.entry with
    | none => sc
    | some w =>
        (sc.setEntry { w with isTerminated := true, preAcceptEndStream := false,
                              capsuleBuffer := [] }).perform .discardStreamRecvBytes

/-- The response headers of a rejection; only 405 carries `allow`. -/
def rejectHeaders (status : Int) : HeaderList :=
  (ascii ":status", ascii (toString status)) ::
    if status = 405 then [(ascii "allow", ascii "CONNECT")] else []

/-- `reject_session`; `rv` is the result of `nghttp2_conn_submit_response`. -/
def rejectSession (s : H2Session) (sessionId status : Int) (rv : Option NgError) :
    Except String H2Session :=
  if !s.isServer then .ok s
  else if sessionId ≤ 0 then
    .error ("reject_session session_id must be a positive stream ID: " ++ toString sessionId)
  else if sessionId % 2 = 0 then .ok s
  else if status < 200 ∨ status ≥ 600 then
    .error "reject_session status_code must be in range 200-599"
  else
    .ok ((s.callNg (.submitResponse sessionId (rejectHeaders status))).inScope sessionId
      (reject status rv))

/-- `reject_session` called from a callback, with a status in range. -/
def rejectInCallback (s : H2Session) (sessionId status : Int) (rv : Option NgError) : H2Session :=
  match s.rejectSession sessionId status rv with
  | .ok s => s
  | .error _ => s

/-! ## nghttp2 callbacks -/

/-- `on_stream_close_callback`; `errorCode` is `none` without `ERROR_CODE_SET`. -/
def onStreamClose (s : H2Session) (sessionId : Int) (errorCode : Option Nat) : H2Session :=
  let s := s.inScope sessionId fun sc =>
    let sc :=
      match sc.entry with
      | none => sc
      | some _ =>
          { sc.pushEvent { type := .sessionClosed, errorCode := errorCode.getD 0 } with
            entry := none }
    (sc.perform .eraseStreamBuffers).perform .discardStreamRecvBytes
  { s with
    http2StreamDataSent := s.http2StreamDataSent.erase sessionId
    endStreamPending := s.endStreamPending.erase sessionId
    pendingHeaders := s.pendingHeaders.erase sessionId }

/-- `on_recv_settings_entry_callback` -/
def onRecvSettingsEntry (s : H2Session) (id value : Nat) : H2Session :=
  if id = 0x08 then
    { s with peer := { s.peer with enableConnectProtocol := value = 1 } }
  else if id = 0x2b60 then
    if value > 1 then
      { s with
        events := s.events ++ [{ type := .error, errorCode := protocolError,
                                 errorMessage := ascii "SETTINGS_WT_ENABLED value greater than 1" }]
        closed := true }
    else { s with peer := { s.peer with wtEnabled := value = 1 } }
  else if id = 0x2b61 then
    { s with peer := { s.peer with wtInitialMaxData := value } }
  else if id = 0x2b62 then
    { s with peer := { s.peer with wtInitialMaxStreamDataUni := value } }
  else if id = 0x2b63 then
    { s with peer := { s.peer with wtInitialMaxStreamDataBidiLocal := value } }
  else if id = 0x2b66 then
    { s with peer := { s.peer with wtInitialMaxStreamDataBidiRemote := value } }
  else if id = 0x2b64 then
    { s with peer := { s.peer with wtInitialMaxStreamsUni := value } }
  else if id = 0x2b65 then
    { s with peer := { s.peer with wtInitialMaxStreamsBidi := value } }
  else s

/-- `on_begin_headers_callback` -/
def onBeginHeaders (s : H2Session) (streamId : Int) : H2Session :=
  { s with pendingHeaders := s.pendingHeaders.insert streamId [] }

/-- `on_recv_header_callback` -/
def onRecvHeader (s : H2Session) (streamId : Int) (name value : Bytes) : H2Session :=
  { s with
    pendingHeaders := s.pendingHeaders.insert streamId
      ((s.pendingHeaders.find? streamId).getD [] ++ [(name, value)]) }

/-- `on_end_trailers_callback`, and the release at the end of `on_end_headers_callback`. -/
def dropHeaders (s : H2Session) (streamId : Int) : H2Session :=
  { s with pendingHeaders := s.pendingHeaders.erase streamId }

/-- The server branch of `on_end_headers_callback`. -/
def onRequestHeaders (s : H2Session) (sessionId : Int) (headers : HeaderList)
    (rv : Option NgError) : H2Session :=
  let isConnect := headers.contains (ascii ":method", ascii "CONNECT")
  let isWebtransport := headers.contains (ascii ":protocol", ascii "webtransport")
  if isConnect && isWebtransport then
    if !verifyOrigin s.config headers then
      (s.dropHeaders sessionId).rejectInCallback sessionId 403 rv
    else
      let w := newSession s.peer s.config sessionId
      let created : Option WtSessionInfo :=
        match lastHeader headers (ascii "webtransport-init") with
        | none => some w
        | some value => (parseWebtransportInit value).map (applyInitLimits w)
      match created with
      | none => (s.dropHeaders sessionId).rejectInCallback sessionId 400 rv
      | some w =>
          (s.inScope sessionId fun sc =>
            (sc.setEntry w).pushEvent { type := .sessionReady, headers := headers }).dropHeaders
              sessionId
  else (s.rejectInCallback sessionId 405 rv).dropHeaders sessionId

/-- `std::from_chars` into a `uint16_t`, rounded to zero outside 100–599. -/
def rejectedStatus (status : Bytes) : Nat :=
  let digits := status.takeWhile isDigit
  let code := digits.foldl (fun n c => n * 10 + (c.toNat - 48)) 0
  if digits = [] ∨ code ≥ 2 ^ 16 ∨ code < 100 ∨ code ≥ 600 then 0 else code

/-- What a client session does with a 2xx response. -/
def establish (headers : HeaderList) (sc : SessionScope) : SessionScope :=
  match sc.entry with
  | none => sc
  | some w =>
      let w :=
        match (lastHeader headers (ascii "webtransport-init")).bind parseWebtransportInit with
        | none => w
        | some limits => applyInitLimits w limits
      ((sc.setEntry { w with isEstablished := true }).pushEvent
        { type := .sessionReady, headers := headers }).sendInitialLimits

/-- What a client session does with a final response that is not 2xx. -/
def beRejected (status : Bytes) (sc : SessionScope) : SessionScope :=
  match sc.entry with
  | none => sc
  | some _ =>
      { sc.pushEvent { type := .sessionRejected, statusCode := rejectedStatus status } with
        entry := none }.perform .discardStreamRecvBytes

/-- The client branch of `on_end_headers_callback`. -/
def onResponseHeaders (s : H2Session) (sessionId : Int) (headers : HeaderList) : H2Session :=
  let isSuccess := headers.any fun h => h.1 = ascii ":status" && h.2.head? = some 50
  let status := (lastHeader headers (ascii ":status")).getD []
  let s :=
    if isSuccess && (s.wtSessions.find? sessionId).isSome then
      s.inScope sessionId (establish headers)
    else if status ≠ [] ∧ status.head? ≠ some 49 ∧ status.head? ≠ some 50 then
      s.inScope sessionId (beRejected status)
    else s
  s.dropHeaders sessionId

/-- `on_end_headers_callback`; `rv` is the result of a `nghttp2_conn_submit_response` inside. -/
def onEndHeaders (s : H2Session) (sessionId : Int) (rv : Option NgError) : H2Session :=
  match s.pendingHeaders.find? sessionId with
  | none => s
  | some headers =>
      if s.isServer then s.onRequestHeaders sessionId headers rv
      else s.onResponseHeaders sessionId headers

/-- `on_recv_data_callback`; `rv` is the result of a `nghttp2_conn_submit_response` inside. -/
def onRecvData (s : H2Session) (sessionId : Int) (data : Bytes) (rv : Option NgError) :
    H2Session :=
  let s := { s with connRecvWindowSize := s.connRecvWindowSize + data.length }
  match s.wtSessions.find? sessionId with
  | none => s.consumeConnectionRecvBytes data.length
  | some w =>
      if w.isTerminated then s.consumeConnectionRecvBytes data.length
      else if data.length = 0 then s
      else
        let s :=
          { s with
            unconsumedRecvBytes := s.unconsumedRecvBytes.insert sessionId
              ((s.unconsumedRecvBytes.find? sessionId).getD 0 + data.length) }
        if w.isEstablished then s.inScope sessionId (·.recvEstablished data)
        else if !s.isServer then s
        else if w.capsuleBuffer.length + data.length > s.config.wtPreAcceptBufferLimit then
          s.rejectInCallback sessionId 413 rv
        else s.inScope sessionId (·.bufferPreAccept data)

/-- `on_remote_end_stream_callback` -/
def onRemoteEndStream (s : H2Session) (sessionId : Int) : H2Session :=
  s.inScope sessionId (·.handleEndStream)

/-- `on_shutdown_callback` -/
def onShutdown (s : H2Session) (lastStreamId : Int) (errorCode : Nat) : H2Session :=
  { s with
    events := s.events ++ [{ type := .goAway, lastStreamId := lastStreamId,
                             errorCode := errorCode }]
    goawayReceived := true }

/-- The queue of `on_read_data_callback` without the entries that are completely written. -/
def dropWritten : List H2StreamData → List H2StreamData
  | [] => []
  | front :: rest =>
      if front.data.length - front.offset = 0 then dropWritten rest else front :: rest

/-- `on_read_data_callback`: the state behind it and what it offers, with the EOF flag; `none` is
`NGHTTP2_ERR_WOULDBLOCK`. -/
def onReadData (s : H2Session) (sessionId : Int) : H2Session × Option (Bytes × Bool) :=
  let queue := dropWritten ((s.http2StreamBuffers.find? sessionId).getD [])
  let s :=
    match s.http2StreamBuffers.find? sessionId with
    | none => s
    | some _ => { s with http2StreamBuffers := s.http2StreamBuffers.insert sessionId queue }
  match queue with
  | front :: rest =>
      let eof := decide (sessionId ∈ s.endStreamPending ∧ rest = [])
      (if eof then { s with endStreamPending := s.endStreamPending.erase sessionId } else s,
        some (front.data.drop front.offset, eof))
  | [] =>
      if sessionId ∈ s.endStreamPending then
        ({ s with endStreamPending := s.endStreamPending.erase sessionId }, some ([], true))
      else (s, none)

/-- The loop of `on_write_stream_data_offset_callback` over the queue. -/
def advanceQueue : Nat → List H2StreamData → List H2StreamData
  | _, [] => []
  | delta, front :: rest =>
      if delta = 0 then front :: rest
      else
        let take := min delta (front.data.length - front.offset)
        if front.offset + take ≥ front.data.length then advanceQueue (delta - take) rest
        else { front with offset := front.offset + take } :: rest

/-- `on_write_stream_data_offset_callback` -/
def onWriteStreamDataOffset (s : H2Session) (sessionId : Int) (offset len : Nat) : H2Session :=
  let sent := (s.http2StreamDataSent.find? sessionId).getD 0
  let newSent := offset + len
  if newSent ≤ sent then
    { s with http2StreamDataSent := s.http2StreamDataSent.insert sessionId sent }
  else
    let s := { s with http2StreamDataSent := s.http2StreamDataSent.insert sessionId newSent }
    match s.http2StreamBuffers.find? sessionId with
    | none => s
    | some queue =>
        { s with
          http2StreamBuffers :=
            s.http2StreamBuffers.insert sessionId (advanceQueue (newSent - sent) queue) }

/-- A callback nghttp2 makes while it writes (`nghttp2_conn_write`). -/
inductive WriteCallback
  | readData (streamId : Int)
  | writeStreamDataOffset (streamId : Int) (offset len : Nat)
  | streamClose (streamId : Int) (errorCode : Option Nat)
  deriving DecidableEq

def onWrite (s : H2Session) : WriteCallback → H2Session
  | .readData streamId => (s.onReadData streamId).1
  | .writeStreamDataOffset streamId offset len => s.onWriteStreamDataOffset streamId offset len
  | .streamClose streamId errorCode => s.onStreamClose streamId errorCode

/-- `flush_output`: the callbacks nghttp2 makes until it has nothing more to write. -/
def flushOutput (s : H2Session) (callbacks : List WriteCallback) : H2Session :=
  if s.closed then s else callbacks.foldl onWrite s

/-! ## API -/

/-- `is_webtransport_ready` -/
def isWebtransportReady (s : H2Session) : Bool :=
  s.peer.enableConnectProtocol && s.peer.wtEnabled

/-- The request headers of `connect`. -/
def connectHeaders (config : H2SessionConfig) (authority path origin : Bytes) : HeaderList :=
  [(ascii ":method", ascii "CONNECT"), (ascii ":scheme", ascii "https"),
    (ascii ":authority", authority), (ascii ":path", path),
    (ascii ":protocol", ascii "webtransport")] ++
  (if origin ≠ [] then [(ascii "origin", origin)] else []) ++
  [(ascii "webtransport-init", encodeWebtransportInit config)]

/-- `connect`; `streamId` is the result of `nghttp2_conn_submit_request`. -/
def connect (s : H2Session) (url origin : Bytes) (streamId : Int)
    (flush : List WriteCallback) : H2Session × Int :=
  if s.isServer then (s, -1)
  else if !s.isWebtransportReady then (s, -1)
  else if s.goawayReceived then (s, -1)
  else
    match parseAuthorityPath url with
    | none => (s, -1)
    | some (authority, path) =>
        let s := s.callNg (.submitRequest (connectHeaders s.config authority path origin))
        if streamId < 0 then (s, -1)
        else
          let s := s.inScope streamId (·.setEntry (newSession s.peer s.config streamId))
          (s.flushOutput flush, streamId)

/-- The response headers of `accept_session`. -/
def acceptHeaders (config : H2SessionConfig) : HeaderList :=
  [(ascii ":status", ascii "200"), (ascii "webtransport-init", encodeWebtransportInit config)]

/-- `accept_session` behind a submitted 2xx: mark the entry established, let the response go out,
process what was buffered. -/
def drainAccepted (s : H2Session) (sessionId : Int) (flush : List WriteCallback) : H2Session :=
  ((s.inScope sessionId (·.markEstablished)).flushOutput flush).inScope sessionId
    (·.processCapsules [])

/-- The end of `accept_session`: an END_STREAM that came before is carried out now, otherwise the
initial limits go out; a session that did not survive the drain gets neither. -/
def finishAccept (s : H2Session) (sessionId : Int) (resetFlush : List WriteCallback) : H2Session :=
  match s.wtSessions.find? sessionId with
  | none => s
  | some w =>
      if w.isTerminated then s
      else if w.preAcceptEndStream then
        let s := s.inScope sessionId (·.terminatePreAcceptEndStreamSession)
        if w.capsuleBuffer ≠ [] then s.flushOutput resetFlush else s
      else s.inScope sessionId (·.sendInitialLimits)

/-- `accept_session`; `rv` is the result of `nghttp2_conn_submit_response`, `flush` what happens in
the `flush_output` behind the 2xx, `resetFlush` in the one of
`terminate_pre_accept_end_stream_session`. -/
def acceptSession (s : H2Session) (sessionId : Int) (rv : Option NgError)
    (flush resetFlush : List WriteCallback) : H2Session × Bool :=
  if !s.isServer ∨ sessionId ≤ 0 ∨ sessionId % 2 = 0 then (s, false)
  else
    let s := s.callNg (.submitResponse sessionId (acceptHeaders s.config))
    match rv with
    | some _ => (s.inScope sessionId (·.clearBuffer), false)
    | none => ((s.drainAccepted sessionId flush).finishAccept sessionId resetFlush, true)

/-- `open_stream` -/
def openStream (s : H2Session) (sessionId : Int) (isUnidirectional : Bool) : H2Session × Int :=
  match s.wtSessions.find? sessionId with
  | none => (s, -1)
  | some w =>
      let result := w.openStream s.config s.isServer isUnidirectional
      (s.inScope sessionId (·.store result.1), result.2)

/-- `send_stream_data` -/
def sendStreamData (s : H2Session) (sessionId : Int) (streamId : Nat) (data : Bytes)
    (fin : Bool) : H2Session :=
  s.inScope sessionId (·.onEntry (WtSessionInfo.sendStreamData streamId data fin))

/-- `reset_stream` -/
def resetStream (s : H2Session) (sessionId : Int) (streamId : Nat) (errorCode : UInt32) :
    Except String H2Session :=
  if streamId > kMaxQuicVarint then
    .error ("reset_stream stream_id must be less than 2^62: " ++ toString streamId)
  else
    .ok (s.inScope sessionId (·.onEntry (WtSessionInfo.resetStream streamId errorCode.toNat)))

/-- `stop_sending` -/
def stopSending (s : H2Session) (sessionId : Int) (streamId : Nat) (errorCode : UInt32) :
    Except String H2Session :=
  if streamId > kMaxQuicVarint then
    .error ("stop_sending stream_id must be less than 2^62: " ++ toString streamId)
  else
    .ok (s.inScope sessionId (·.onEntry (WtSessionInfo.stopSending streamId errorCode.toNat)))

/-- `send_datagram` -/
def sendDatagram (s : H2Session) (sessionId : Int) (data : Bytes) : H2Session :=
  s.inScope sessionId (·.onEntry (WtSessionInfo.sendDatagram data))

/-- `drain_session` -/
def drainSession (s : H2Session) (sessionId : Int) : H2Session :=
  s.inScope sessionId (·.onEntry WtSessionInfo.drainSession)

/-- `close_session` -/
def closeSession (s : H2Session) (sessionId : Int) (errorCode : UInt32) (message : Bytes) :
    H2Session :=
  s.inScope sessionId (·.closeSession errorCode.toNat message)

/-- `next_event` -/
def nextEvent (s : H2Session) : H2Session × Option H2Event :=
  match s.events with
  | [] => (s, none)
  | e :: rest => ({ s with events := rest }, some e)

/-! ## Runs -/

/-- Everything that can happen to an `H2Session`: a callback from nghttp2 or an API call, with what
nghttp2 answers inside it. -/
inductive Input
  | recvSettingsEntry (id value : Nat)
  | beginHeaders (streamId : Int)
  | recvHeader (streamId : Int) (name value : Bytes)
  | endHeaders (streamId : Int) (rv : Option NgError)
  | endTrailers (streamId : Int)
  | recvData (streamId : Int) (data : Bytes) (rv : Option NgError)
  | remoteEndStream (streamId : Int)
  | shutdown (lastStreamId : Int) (errorCode : Nat)
  | write (callback : WriteCallback)
  | readError (err : NgError)
  | connect (url origin : Bytes) (streamId : Int) (flush : List WriteCallback)
  | acceptSession (sessionId : Int) (rv : Option NgError) (flush resetFlush : List WriteCallback)
  | rejectSession (sessionId status : Int) (rv : Option NgError)
  | openStream (sessionId : Int) (isUnidirectional : Bool)
  | sendStreamData (sessionId : Int) (streamId : Nat) (data : Bytes) (fin : Bool)
  | resetStream (sessionId : Int) (streamId : Nat) (errorCode : UInt32)
  | stopSending (sessionId : Int) (streamId : Nat) (errorCode : UInt32)
  | sendDatagram (sessionId : Int) (data : Bytes)
  | closeSession (sessionId : Int) (errorCode : UInt32) (message : Bytes)
  | drainSession (sessionId : Int)
  | nextEvent

/-- A call that throws leaves the state as it is. -/
def orElse (s : H2Session) : Except String H2Session → H2Session
  | .ok s' => s'
  | .error _ => s

/-- One input.  `receive` is the callbacks of `nghttp2_conn_read` one by one, followed by the
write callbacks of its `flush_output`, or by `readError`; `send` and `want_write` are write
callbacks only. -/
def step (s : H2Session) : Input → H2Session
  | .recvSettingsEntry id value => s.onRecvSettingsEntry id value
  | .beginHeaders streamId => s.onBeginHeaders streamId
  | .recvHeader streamId name value => s.onRecvHeader streamId name value
  | .endHeaders streamId rv => s.onEndHeaders streamId rv
  | .endTrailers streamId => s.dropHeaders streamId
  | .recvData streamId data rv => s.onRecvData streamId data rv
  | .remoteEndStream streamId => s.onRemoteEndStream streamId
  | .shutdown lastStreamId errorCode => s.onShutdown lastStreamId errorCode
  | .write callback => s.onWrite callback
  | .readError err =>
      { s with events := s.events ++ [{ type := .error, errorCode := err.code,
                                        errorMessage := err.message }] }
  | .connect url origin streamId flush => (s.connect url origin streamId flush).1
  | .acceptSession sessionId rv flush resetFlush =>
      (s.acceptSession sessionId rv flush resetFlush).1
  | .rejectSession sessionId status rv => s.orElse (s.rejectSession sessionId status rv)
  | .openStream sessionId isUnidirectional => (s.openStream sessionId isUnidirectional).1
  | .sendStreamData sessionId streamId data fin => s.sendStreamData sessionId streamId data fin
  | .resetStream sessionId streamId errorCode =>
      s.orElse (s.resetStream sessionId streamId errorCode)
  | .stopSending sessionId streamId errorCode =>
      s.orElse (s.stopSending sessionId streamId errorCode)
  | .sendDatagram sessionId data => s.sendDatagram sessionId data
  | .closeSession sessionId errorCode message => s.closeSession sessionId errorCode message
  | .drainSession sessionId => s.drainSession sessionId
  | .nextEvent => s.nextEvent.1

/-- A whole run. -/
def run (s : H2Session) (inputs : List Input) : H2Session := inputs.foldl step s

end H2Session

end H2
end WebTransport
