import WebTransport.Bindings.QuicVarint
import WebTransport.Data.OrdSet
import WebTransport.Data.Path

/-!
# Http2.Connection — the HTTP/2 connection object (`http2.cpp`)

An `Http2Connection` wraps nghttp2, which is outside: what it answers to a call is an input of the
step, and so are the callbacks it makes while it reads and writes.  Received bytes are given back to
the peer by the connection itself, half a window at a time; bodies wait in `stream_buffers_` until
nghttp2 has written them.
-/

namespace WebTransport
namespace Http2

open Bindings

/-! ## Data -/

/-- `Http2EventType` -/
inductive Http2EventType
  | headers
  | data
  | streamEnd
  | streamReset
  | goAway
  | settings
  | ping
  | informational
  | trailers
  deriving DecidableEq, Repr

abbrev Headers := List (Bytes × Bytes)

/-- `Http2Event` -/
structure Http2Event where
  type : Http2EventType
  streamId : Int := 0
  headers : Headers := []
  data : Bytes := []
  errorCode : Nat := 0
  lastStreamId : Int := 0
  opaqueData : Bytes := []
  pingRttNs : Nat := 0
  deriving DecidableEq

/-- `StreamData` -/
structure StreamData where
  data : Bytes
  offset : Nat := 0
  eof : Bool := false
  deriving DecidableEq

/-- `StreamRuntime` -/
structure StreamRuntime where
  localClosed : Bool := false
  remoteClosed : Bool := false
  deriving DecidableEq

/-- What happens to the receive windows. -/
inductive Happening
  /-- `unregister_stream` -/
  | unregistered (streamId : Int)
  | received (streamId : Int) (size : Nat)
  /-- `nghttp2_conn_extend_max_offset` -/
  | extendMaxOffset (size : Int)
  /-- `nghttp2_conn_extend_max_stream_offset` -/
  | extendMaxStreamOffset (streamId : Int) (size : Int)
  deriving DecidableEq

/-- `INT32_MAX` -/
def int32Max : Int := 2147483647

/-- `static_cast<int32_t>` -/
def toInt32 (value : Int) : Int := value.bmod (2 ^ 32)

/-- `NGHTTP2_ERR_CLOSING` -/
def errClosing : Int := -502

/-- `Http2Connection`; `log` and `pushed` record what was done and are never read by the code.  `conn_`
is set once at creation, so the null checks are left out. -/
structure Http2Connection where
  isServer : Bool
  initialWindowSize : Nat
  events : List Http2Event := []
  pendingOut : Bytes := []
  streamBuffers : OrdMap Int (List StreamData) := ∅
  streamDataSent : OrdMap Int Nat := ∅
  trailersSubmitted : OrdSet Int := ∅
  localResets : OrdSet Int := ∅
  streams : OrdMap Int StreamRuntime := ∅
  pendingHeaders : OrdMap Int Headers := ∅
  pendingTrailers : OrdMap Int Headers := ∅
  connLocalWindowSize : Int := 65535
  connRecvWindowSize : Int := 0
  connRecvReduction : Int := 0
  streamLocalWindowSize : OrdMap Int Int := ∅
  streamRecvWindowSize : OrdMap Int Int := ∅
  streamRecvReduction : OrdMap Int Int := ∅
  closed : Bool := false
  closing : Bool := false
  goawaySent : Bool := false
  goawayReceived : Bool := false
  pushed : List Http2Event := []
  log : List Happening := []

namespace Http2Connection

/-- `create_client` and `create_server`: the initial window must fit an `int32_t`. -/
def create (isServer : Bool) (initialWindowSize : Nat) : Option Http2Connection :=
  if (initialWindowSize : Int) > int32Max then none
  else some { isServer := isServer, initialWindowSize := initialWindowSize }

/-- `push_event` -/
def pushEvent (s : Http2Connection) (event : Http2Event) : Http2Connection :=
  { s with events := s.events ++ [event], pushed := s.pushed ++ [event] }

def record (s : Http2Connection) (happening : Happening) : Http2Connection :=
  { s with log := s.log ++ [happening] }

/-! ## Streams -/

/-- The entry of `stream_local_window_size_`, with the initial size if there is none. -/
def initStreamWindow (s : Http2Connection) (streamId : Int) : Http2Connection :=
  match s.streamLocalWindowSize.find? streamId with
  | some _ => s
  | none =>
      { s with
          streamLocalWindowSize := s.streamLocalWindowSize.insert streamId s.initialWindowSize }

/-- The entry of `streams_`. -/
def initStream (s : Http2Connection) (streamId : Int) : Http2Connection :=
  match s.streams.find? streamId with
  | some _ => s
  | none => { s with streams := s.streams.insert streamId {} }

/-- `register_stream` -/
def registerStream (s : Http2Connection) (streamId : Int) : Http2Connection :=
  (s.initStream streamId).initStreamWindow streamId

/-- `unregister_stream` -/
def unregisterStream (s : Http2Connection) (streamId : Int) : Http2Connection :=
  { s with
      streams := s.streams.erase streamId
      streamBuffers := s.streamBuffers.erase streamId
      streamDataSent := s.streamDataSent.erase streamId
      trailersSubmitted := s.trailersSubmitted.erase streamId
      streamLocalWindowSize := s.streamLocalWindowSize.erase streamId
      streamRecvWindowSize := s.streamRecvWindowSize.erase streamId
      streamRecvReduction := s.streamRecvReduction.erase streamId
      pendingHeaders := s.pendingHeaders.erase streamId
      pendingTrailers := s.pendingTrailers.erase streamId }.record (.unregistered streamId)

/-! ## Receive windows -/

/-- The three counters of a window. -/
structure Window where
  size : Int
  recv : Int
  reduction : Int
  deriving DecidableEq

/-- `extend_recv_connection_window` and `extend_recv_stream_window` on one window: the window, and
what is to be announced. -/
def Window.receive (window : Window) (size : Nat) : Window × Option Int :=
  let recv := window.recv + size
  if recv > 0 ∧ recv ≥ window.size.tdiv 2 then ({ window with recv := 0 }, some recv)
  else ({ window with recv := recv }, none)

/-- `set_local_window_size` on one window. -/
def Window.resize (window : Window) (windowSize : Int) : Window × Option Int :=
  let delta := windowSize - window.size
  if delta = 0 then (window, none)
  else if delta < 0 then
    (⟨window.size + delta, window.recv + delta, window.reduction - delta⟩, none)
  else
    -- an increase first takes back what was reduced before
    let take := min window.reduction delta
    (⟨window.size + delta, window.recv + take, window.reduction - take⟩,
      if delta - take > 0 then some (delta - take) else none)

/-- The window of the connection. -/
def connWindow (s : Http2Connection) : Window :=
  ⟨s.connLocalWindowSize, s.connRecvWindowSize, s.connRecvReduction⟩

/-- The window of a stream, with the zeros of `operator[]`. -/
def streamWindow (s : Http2Connection) (streamId : Int) : Window :=
  ⟨(s.streamLocalWindowSize.find? streamId).getD 0, (s.streamRecvWindowSize.find? streamId).getD 0,
    (s.streamRecvReduction.find? streamId).getD 0⟩

def setConnWindow (s : Http2Connection) (window : Window) : Http2Connection :=
  { s with
      connLocalWindowSize := window.size
      connRecvWindowSize := window.recv
      connRecvReduction := window.reduction }

def setStreamWindow (s : Http2Connection) (streamId : Int) (window : Window) : Http2Connection :=
  { s with
      streamLocalWindowSize := s.streamLocalWindowSize.insert streamId window.size
      streamRecvWindowSize := s.streamRecvWindowSize.insert streamId window.recv
      streamRecvReduction := s.streamRecvReduction.insert streamId window.reduction }

/-- `nghttp2_conn_extend_max_offset`, if there is something to announce. -/
def extendMaxOffset (s : Http2Connection) : Option Int → Http2Connection
  | none => s
  | some size => s.record (.extendMaxOffset size)

/-- `nghttp2_conn_extend_max_stream_offset`, if there is something to announce. -/
def extendMaxStreamOffset (s : Http2Connection) (streamId : Int) : Option Int → Http2Connection
  | none => s
  | some size => s.record (.extendMaxStreamOffset streamId size)

/-- `extend_recv_connection_window` -/
def extendRecvConnectionWindow (s : Http2Connection) (size : Nat) : Http2Connection :=
  let (window, announced) := s.connWindow.receive size
  (s.setConnWindow window).extendMaxOffset announced

/-- `extend_recv_stream_window` -/
def extendRecvStreamWindow (s : Http2Connection) (streamId : Int) (size : Nat) : Http2Connection :=
  let s := s.initStreamWindow streamId
  let (window, announced) := (s.streamWindow streamId).receive size
  { s with streamRecvWindowSize := s.streamRecvWindowSize.insert streamId window.recv
    }.extendMaxStreamOffset streamId announced

/-- `set_local_window_size` -/
def setLocalWindowSize (s : Http2Connection) (streamId windowSize : Int) : Http2Connection × Bool :=
  if s.closed then (s, false)
  else if windowSize < 0 then (s, false)
  else if streamId = 0 then
    let (window, announced) := s.connWindow.resize windowSize
    ((s.setConnWindow window).extendMaxOffset announced, true)
  else
    match s.streams.find? streamId with
    | none => (s, true)
    | some _ =>
        let (window, announced) := (s.streamWindow streamId).resize windowSize
        ((s.setStreamWindow streamId window).extendMaxStreamOffset streamId announced, true)

/-- `local_window_size` -/
def localWindowSize (s : Http2Connection) : Option Int :=
  if s.closed then none else some (toInt32 (s.connLocalWindowSize - s.connRecvWindowSize))

/-- `effective_recv_data_length` -/
def effectiveRecvDataLength (s : Http2Connection) : Option Int :=
  if s.closed then none else some (toInt32 (max 0 s.connRecvWindowSize))

/-- `stream_local_window_size` -/
def streamLocalWindowSizeOf (s : Http2Connection) (streamId : Int) : Option Int :=
  if s.closed then none
  else
    (s.streams.find? streamId).map fun _ =>
      toInt32 (max 0 ((s.streamWindow streamId).size - (s.streamWindow streamId).recv))

/-! ## Sending -/

/-- `stream_buffers_[stream_id]` -/
def buffers (s : Http2Connection) (streamId : Int) : List StreamData :=
  (s.streamBuffers.find? streamId).getD []

def setBuffers (s : Http2Connection) (streamId : Int) (buffers : List StreamData) :
    Http2Connection :=
  { s with streamBuffers := s.streamBuffers.insert streamId buffers }

/-- The loop of `on_read_data_callback` over the buffers of a stream: what is left of them and what is
offered, with the EOF flag; `none` when they are used up. -/
def readBuffers : List StreamData → List StreamData × Option (Bytes × Bool)
  | [] => ([], none)
  | front :: rest =>
      if front.data.length - front.offset = 0 then
        if front.eof then (rest, some ([], true)) else readBuffers rest
      else (front :: rest, some (front.data.drop front.offset, front.eof))

/-- `on_read_data_callback`; `none` is `NGHTTP2_ERR_WOULDBLOCK`. -/
def onReadData (s : Http2Connection) (streamId : Int) :
    Http2Connection × Option (Bytes × Bool) :=
  let (left, offered) := readBuffers (s.buffers streamId)
  let s :=
    match s.streamBuffers.find? streamId with
    | none => s
    | some _ => s.setBuffers streamId left
  match offered with
  | some offer => (s, some offer)
  | none => (s, if streamId ∈ s.trailersSubmitted then some ([], true) else none)

/-- The loop of `on_write_stream_data_offset_callback`. -/
def advance : Nat → List StreamData → List StreamData
  | _, [] => []
  | delta, front :: rest =>
      if delta = 0 then front :: rest
      else
        let take := min delta (front.data.length - front.offset)
        if front.offset + take ≥ front.data.length then advance (delta - take) rest
        else { front with offset := front.offset + take } :: rest

/-- `on_write_stream_data_offset_callback` -/
def onWriteStreamDataOffset (s : Http2Connection) (streamId : Int) (offset len : Nat) :
    Http2Connection :=
  let sent := (s.streamDataSent.find? streamId).getD 0
  let newSent := offset + len
  if newSent ≤ sent then { s with streamDataSent := s.streamDataSent.insert streamId sent }
  else
    let s := { s with streamDataSent := s.streamDataSent.insert streamId newSent }
    match s.streamBuffers.find? streamId with
    | none => s
    | some queue => s.setBuffers streamId (advance (newSent - sent) queue)

/-- `submit_request`; `answer` is the result of `nghttp2_conn_submit_request`. -/
def submitRequest (s : Http2Connection) (answer : Int) : Http2Connection × Int :=
  if s.closed || s.isServer || s.goawayReceived then (s, -1)
  else if answer < 0 then (s, -1)
  else ((s.registerStream answer).setBuffers answer [], answer)

/-- The ids `submit_response` and `submit_trailer` take. -/
def isClientStreamId (streamId : Int) : Bool :=
  0 < streamId ∧ streamId ≤ int32Max ∧ streamId % 2 ≠ 0

/-- `submit_response`: an interim response and a final one differ only in the nghttp2 call. -/
def submitResponse (s : Http2Connection) (streamId : Int) : Http2Connection :=
  if s.closed || !s.isServer || !isClientStreamId streamId then s
  else s.setBuffers streamId []

/-- `send_data` -/
def sendData (s : Http2Connection) (streamId : Int) (data : Bytes) (eof : Bool) : Http2Connection :=
  if s.closed then s
  else
    -- the trailers carry END_STREAM
    let eof := eof && !decide (streamId ∈ s.trailersSubmitted)
    s.setBuffers streamId (s.buffers streamId ++ [{ data := data, eof := eof }])

/-- `reset_stream` -/
def resetStream (s : Http2Connection) (streamId : Int) : Http2Connection :=
  if s.closed ∨ streamId ≤ 0 ∨ streamId > int32Max then s
  else
    { s with
        localResets := s.localResets.insert streamId
        streamBuffers := s.streamBuffers.erase streamId }

/-- `submit_trailer`; `rv` is the result of `nghttp2_conn_submit_trailers`. -/
def submitTrailer (s : Http2Connection) (streamId : Int) (rv : Int) : Http2Connection × Bool :=
  if s.closed || !s.isServer || !isClientStreamId streamId then (s, false)
  else
    match s.streams.find? streamId with
    | none => (s, false)
    | some stream =>
        if stream.localClosed then (s, false)
        else
          match s.streamBuffers.find? streamId with
          | none => (s, false)
          | some queue =>
              if queue.any StreamData.eof then (s, false)
              else if streamId ∈ s.trailersSubmitted then (s, false)
              else if rv ≠ 0 then (s, false)
              else ({ s with trailersSubmitted := s.trailersSubmitted.insert streamId }, true)

/-- `submit_trailer` refuses, or accepts for a stream whose queue is there and holds no EOF. -/
theorem submitTrailer_cases (s : Http2Connection) (streamId rv : Int) :
    s.submitTrailer streamId rv = (s, false) ∨
      ∃ stream queue, s.streams.find? streamId = some stream ∧
        s.streamBuffers.find? streamId = some queue ∧ queue.any StreamData.eof = false ∧
        streamId ∉ s.trailersSubmitted ∧ s.closed = false ∧
        s.submitTrailer streamId rv =
          ({ s with trailersSubmitted := s.trailersSubmitted.insert streamId }, true) := by
  unfold submitTrailer
  by_cases hguard : (s.closed || !s.isServer || !isClientStreamId streamId) = true
  · rw [if_pos hguard]
    exact Or.inl rfl
  rw [if_neg hguard]
  have hclosed : s.closed = false := by
    cases hc : s.closed
    · rfl
    · simp [hc] at hguard
  cases hstream : s.streams.find? streamId with
  | none => exact Or.inl rfl
  | some stream =>
      dsimp only
      by_cases hlocal : stream.localClosed = true
      · rw [if_pos hlocal]
        exact Or.inl rfl
      rw [if_neg hlocal]
      cases hqueue : s.streamBuffers.find? streamId with
      | none => exact Or.inl rfl
      | some queue =>
          dsimp only
          split_ifs with heof hmem hrv
          · exact Or.inl rfl
          · exact Or.inl rfl
          · exact Or.inl rfl
          · exact Or.inr ⟨stream, queue, rfl, rfl, by simpa using heof, hmem, hclosed, rfl⟩

/-- `terminate_session` -/
def terminateSession (s : Http2Connection) (lastStreamId : Int) : Http2Connection × Bool :=
  if s.closed then (s, false)
  else if lastStreamId ≠ 0 ∧
      (lastStreamId < 0 ∨ (if s.isServer then lastStreamId % 2 = 0 else lastStreamId % 2 ≠ 0)) then
    (s, false)
  else ({ s with goawaySent := true }, true)

/-- `goaway`: a code other than NO_ERROR terminates at once. -/
def goaway (s : Http2Connection) (errorCode : Nat) : Http2Connection :=
  if s.closed || s.goawaySent then s
  else if errorCode ≠ 0 then (s.terminateSession 0).1
  else { s with goawaySent := true }

/-! ## Callbacks -/

/-- What nghttp2 fires while it reads and writes. -/
inductive Callback
  | streamOpen (streamId : Int)
  /-- `errorCode` is there if `NGHTTP2_STREAM_CLOSE_FLAG_ERROR_CODE_SET` is -/
  | streamClose (streamId : Int) (errorCode : Option Nat)
  | recvSettings
  | beginHeaders (streamId : Int)
  | recvHeader (streamId : Int) (name value : Bytes)
  | endHeaders (streamId : Int)
  | beginTrailers (streamId : Int)
  | recvTrailer (streamId : Int) (name value : Bytes)
  | endTrailers (streamId : Int)
  | recvData (streamId : Int) (data : Bytes)
  | remoteEndStream (streamId : Int)
  | localEndStream (streamId : Int)
  | recvPingAck (data : Bytes) (rtt : Nat)
  | shutdown (lastStreamId : Int) (errorCode : Nat)
  | readData (streamId : Int)
  | writeStreamDataOffset (streamId : Int) (offset len : Nat)
  deriving DecidableEq

/-- `classify_headers_event`, from what was seen of the earlier headers. -/
def classifyFrom (hasStatus informational : Bool) : Headers → Http2EventType
  | [] =>
      if !hasStatus then .trailers else if informational then .informational else .headers
  | (name, value) :: rest =>
      if name = ascii ":method" then .headers
      else if name = ascii ":status" then classifyFrom true (value.head? = some 49) rest
      else classifyFrom hasStatus informational rest

/-- `classify_headers_event` -/
def classifyHeadersEvent (headers : Headers) : Http2EventType := classifyFrom false false headers

/-- `on_stream_close_callback` -/
def onStreamClose (s : Http2Connection) (streamId : Int) (errorCode : Option Nat) :
    Http2Connection :=
  let s :=
    match errorCode with
    | none => s
    | some code =>
        if streamId ∈ s.localResets then s
        else s.pushEvent { type := .streamReset, streamId := streamId, errorCode := code }
  { s with localResets := s.localResets.erase streamId }.unregisterStream streamId

/-- `on_recv_data_callback` -/
def onRecvData (s : Http2Connection) (streamId : Int) (data : Bytes) : Http2Connection :=
  let s := s.record (.received streamId data.length)
  ((s.extendRecvStreamWindow streamId data.length).extendRecvConnectionWindow data.length).pushEvent
    { type := .data, streamId := streamId, data := data }

/-- Set a flag of a stream that is there. -/
def updateStream (s : Http2Connection) (streamId : Int) (f : StreamRuntime → StreamRuntime) :
    Http2Connection :=
  match s.streams.find? streamId with
  | none => s
  | some stream => { s with streams := s.streams.insert streamId (f stream) }

/-- The callbacks, `read_data` apart. -/
def onCallback (s : Http2Connection) : Callback → Http2Connection
  | .streamOpen streamId => s.registerStream streamId
  | .streamClose streamId errorCode => s.onStreamClose streamId errorCode
  | .recvSettings => s.pushEvent { type := .settings }
  | .beginHeaders streamId => { s with pendingHeaders := s.pendingHeaders.insert streamId [] }
  | .recvHeader streamId name value =>
      { s with
          pendingHeaders := s.pendingHeaders.insert streamId
            ((s.pendingHeaders.find? streamId).getD [] ++ [(name, value)]) }
  | .endHeaders streamId =>
      match s.pendingHeaders.find? streamId with
      | none => s
      | some headers =>
          { s.pushEvent { type := classifyHeadersEvent headers, streamId := streamId,
                          headers := headers } with
            pendingHeaders := s.pendingHeaders.erase streamId }
  | .beginTrailers streamId => { s with pendingTrailers := s.pendingTrailers.insert streamId [] }
  | .recvTrailer streamId name value =>
      { s with
          pendingTrailers := s.pendingTrailers.insert streamId
            ((s.pendingTrailers.find? streamId).getD [] ++ [(name, value)]) }
  | .endTrailers streamId =>
      match s.pendingTrailers.find? streamId with
      | none => s
      | some headers =>
          { s.pushEvent { type := .trailers, streamId := streamId, headers := headers } with
            pendingTrailers := s.pendingTrailers.erase streamId }
  | .recvData streamId data => s.onRecvData streamId data
  | .remoteEndStream streamId =>
      (s.updateStream streamId fun stream => { stream with remoteClosed := true }).pushEvent
        { type := .streamEnd, streamId := streamId }
  | .localEndStream streamId =>
      s.updateStream streamId fun stream => { stream with localClosed := true }
  | .recvPingAck data rtt => s.pushEvent { type := .ping, opaqueData := data, pingRttNs := rtt }
  | .shutdown lastStreamId errorCode =>
      { s with goawayReceived := true }.pushEvent
        { type := .goAway, errorCode := errorCode, lastStreamId := lastStreamId }
  | .readData streamId => (s.onReadData streamId).1
  | .writeStreamDataOffset streamId offset len => s.onWriteStreamDataOffset streamId offset len

/-- `receive`: the callbacks of `nghttp2_conn_read` and its result. -/
def receive (s : Http2Connection) (callbacks : List Callback) (rv : Int) : Http2Connection :=
  if s.closed then s
  else
    let s := callbacks.foldl onCallback s
    if rv ≠ 0 then { s with closed := true } else s

/-- `ensure_pending_out`: the callbacks of `nghttp2_conn_write`, its result and its bytes. -/
def ensurePendingOut (s : Http2Connection) (callbacks : List Callback) (n : Int) (bytes : Bytes) :
    Http2Connection × Bool :=
  if s.closed || s.closing then (s, false)
  else if s.pendingOut ≠ [] then (s, true)
  else
    let s := callbacks.foldl onCallback s
    if n < 0 then
      if n = errClosing then ({ s with closing := true }, false)
      else ({ s with closed := true }, false)
    else if n = 0 then (s, false)
    else ({ s with pendingOut := bytes }, true)

/-- `send` -/
def send (s : Http2Connection) (callbacks : List Callback) (n : Int) (bytes : Bytes) :
    Http2Connection × Option Bytes :=
  match s.ensurePendingOut callbacks n bytes with
  | (s, false) => (s, none)
  | (s, true) => ({ s with pendingOut := [] }, some s.pendingOut)

/-! ## Runs -/

/-- A step of a run: a callback, what a read or write ends with, or a call of the application. -/
inductive Act
  | callback (callback : Callback)
  /-- what `receive`, `want_write` and `send` do behind the callbacks -/
  | settle (closed closing : Bool) (pendingOut : Bytes)
  | submitRequest (answer : Int)
  | submitResponse (streamId : Int)
  | sendData (streamId : Int) (data : Bytes) (eof : Bool)
  | resetStream (streamId : Int)
  | submitTrailer (streamId : Int) (rv : Int)
  | setLocalWindowSize (streamId windowSize : Int)
  | terminateSession (lastStreamId : Int)
  | goaway (errorCode : Nat)
  | nextEvent
  deriving DecidableEq

/-- The state behind a step. -/
def act (s : Http2Connection) : Act → Http2Connection
  | .callback callback => s.onCallback callback
  | .settle closed closing pendingOut =>
      { s with
          closed := s.closed || closed
          closing := s.closing || closing
          pendingOut := pendingOut }
  | .submitRequest answer => (s.submitRequest answer).1
  | .submitResponse streamId => s.submitResponse streamId
  | .sendData streamId data eof => s.sendData streamId data eof
  | .resetStream streamId => s.resetStream streamId
  | .submitTrailer streamId rv => (s.submitTrailer streamId rv).1
  | .setLocalWindowSize streamId windowSize => (s.setLocalWindowSize streamId windowSize).1
  | .terminateSession lastStreamId => (s.terminateSession lastStreamId).1
  | .goaway errorCode => s.goaway errorCode
  | .nextEvent => { s with events := s.events.tail }

/-- nghttp2 is read from and written to, and so fires callbacks, only while the connection is not
closed; `set_local_window_size` takes an `int32_t`. -/
def Act.Possible (s : Http2Connection) : Act → Prop
  | .callback _ => s.closed = false
  | .setLocalWindowSize _ windowSize => windowSize ≤ int32Max
  | _ => True

/-- A step of a run. -/
def Takes : Http2Connection → Act → Http2Connection → Prop := Guarded act fun s a => a.Possible s

instance (s : Http2Connection) (a : Act) : Decidable (a.Possible s) :=
  match a with
  | .callback _ => inferInstanceAs (Decidable (s.closed = false))
  | .setLocalWindowSize _ windowSize => inferInstanceAs (Decidable (windowSize ≤ int32Max))
  | .settle _ _ _ | .submitRequest _ | .submitResponse _ | .sendData _ _ _ | .resetStream _
  | .submitTrailer _ _ | .terminateSession _ | .goaway _ | .nextEvent =>
      inferInstanceAs (Decidable True)

theorem closed_onCallback (s : Http2Connection) (callback : Callback) :
    (s.onCallback callback).closed = s.closed := by
  cases callback with
  | streamOpen streamId =>
      simp only [onCallback, registerStream, initStreamWindow, initStream]
      split <;> split <;> rfl
  | streamClose streamId errorCode =>
      simp only [onCallback, onStreamClose]
      split
      · rfl
      · split <;> rfl
  | endHeaders | endTrailers =>
      simp only [onCallback]
      split <;> rfl
  | recvData streamId data =>
      have hinit : ∀ s : Http2Connection, (s.initStreamWindow streamId).closed = s.closed := by
        intro s
        unfold initStreamWindow
        split <;> rfl
      have hstream : ∀ s : Http2Connection,
          (s.extendRecvStreamWindow streamId data.length).closed = s.closed := by
        intro s
        simp only [extendRecvStreamWindow, extendMaxStreamOffset]
        split <;> exact hinit s
      have hconn : ∀ s : Http2Connection,
          (s.extendRecvConnectionWindow data.length).closed = s.closed := by
        intro s
        simp only [extendRecvConnectionWindow, extendMaxOffset]
        split <;> rfl
      exact (hconn _).trans (hstream _)
  | remoteEndStream | localEndStream =>
      simp only [onCallback, updateStream]
      split <;> rfl
  | readData streamId =>
      simp only [onCallback, onReadData]
      split <;> split <;> rfl
  | writeStreamDataOffset streamId offset len =>
      simp only [onCallback, onWriteStreamDataOffset]
      split_ifs
      · rfl
      · split <;> rfl
  | _ => rfl

theorem onCallbacks_path (s : Http2Connection) (hclosed : s.closed = false)
    (callbacks : List Callback) :
    Path Takes s (callbacks.map Act.callback) (callbacks.foldl onCallback s) := by
  induction callbacks generalizing s with
  | nil => rfl
  | cons callback callbacks ih =>
      have hnext : (s.onCallback callback).closed = false := by
        rw [closed_onCallback, hclosed]
      exact ⟨s.onCallback callback, ⟨hclosed, rfl⟩, ih _ hnext⟩

/-- `receive` is a run of its callbacks. -/
theorem receive_path (s : Http2Connection) (callbacks : List Callback) (rv : Int) :
    ∃ acts, Path Takes s acts (s.receive callbacks rv) := by
  unfold receive
  split_ifs with hclosed hrv
  · exact ⟨[], rfl⟩
  · have hcallbacks := onCallbacks_path s (by simpa using hclosed) callbacks
    generalize callbacks.foldl onCallback s = read at hcallbacks
    refine ⟨_, hcallbacks.join (Path.one (l := .settle true false read.pendingOut) ?_)⟩
    refine ⟨trivial, ?_⟩
    simp [act]
  · exact ⟨_, onCallbacks_path s (by simpa using hclosed) callbacks⟩

/-- `send` is a run of its callbacks, and `want_write` the same run without the last step. -/
theorem send_path (s : Http2Connection) (callbacks : List Callback) (n : Int) (bytes : Bytes) :
    ∃ acts, Path Takes s acts (s.send callbacks n bytes).1 := by
  have hempty : ∀ s : Http2Connection, ∃ acts, Path Takes s acts { s with pendingOut := [] } := by
    intro s
    have hone : Takes s (.settle false false []) { s with pendingOut := [] } :=
      ⟨trivial, by simp [act]⟩
    exact ⟨_, Path.one hone⟩
  unfold send ensurePendingOut
  split_ifs with hclosed hpending hneg hclosing hzero
  · exact ⟨[], rfl⟩
  · exact hempty s
  all_goals
    have hopen : s.closed = false := by
      cases hc : s.closed
      · rfl
      · simp [hc] at hclosed
    have hcallbacks := onCallbacks_path s hopen callbacks
    generalize callbacks.foldl onCallback s = read at hcallbacks
  · refine ⟨_, hcallbacks.join (Path.one (l := .settle false true read.pendingOut) ?_)⟩
    refine ⟨trivial, ?_⟩
    simp [act]
  · refine ⟨_, hcallbacks.join (Path.one (l := .settle true false read.pendingOut) ?_)⟩
    refine ⟨trivial, ?_⟩
    simp [act]
  · exact ⟨_, hcallbacks⟩
  · refine ⟨_, hcallbacks.join (Path.one (l := .settle false false []) ?_)⟩
    refine ⟨trivial, ?_⟩
    simp [act]

end Http2Connection

end Http2
end WebTransport
