import WebTransport.Data.Path
import WebTransport.Quic.Types

/-!
# Quic.Connection — the QUIC connection object (`quic.cpp`)

A `QuicConnection` hands received datagrams to ngtcp2 with `receive`, takes packets out of it with
`send` and drives its timer with `handle_timeout`.  What the application wants to send waits in
`stream_buffers_` and `datagram_queue_`; what ngtcp2 took is kept in `stream_unacked_` until it is
acknowledged.  Every call reads the clock at most once: `now` is that reading.
-/

namespace WebTransport
namespace Quic

open Bindings

namespace QuicConnection

variable {N : Ngtcp2}

/-- `push_event` -/
def pushEvent (s : QuicConnection N) (event : QuicEvent) : QuicConnection N :=
  { s with events := s.events ++ [event], pushed := s.pushed ++ [event] }

/-- `closed_ = true`, with the ConnectionClosed event. -/
def shut (s : QuicConnection N) (reason : String) : QuicConnection N :=
  { s.pushEvent { type := .connectionClosed, reason := reason } with closed := true }

def record (s : QuicConnection N) (happening : Happening) : QuicConnection N :=
  { s with log := s.log ++ [happening] }

/-- `consume_verify_error` -/
def consumeVerifyError (s : QuicConnection N) (fallback : String) : QuicConnection N × String :=
  match s.verifyError with
  | none => (s, fallback)
  | some message => ({ s with verifyError := none }, message)

/-! ## Callbacks -/

/-- The loop of `acked_stream_data_offset_cb`: drop the whole chunks that end at or before
`releaseUpTo`. -/
def releaseChunks (releaseUpTo : Nat) : Nat → List Bytes → Nat × List Bytes
  | acked, [] => (acked, [])
  | acked, chunk :: chunks =>
      if acked + chunk.length ≤ releaseUpTo then
        releaseChunks releaseUpTo (acked + chunk.length) chunks
      else (acked, chunk :: chunks)

/-- `acked_stream_data_offset_cb` -/
def ackedStreamDataOffsetCb (s : QuicConnection N) (streamId : Int) (offset datalen : Nat) :
    QuicConnection N :=
  match s.streamUnacked.find? streamId with
  | none => s
  | some chunks =>
      let acked := (s.streamAckedOffset.find? streamId).getD 0
      let (acked, chunks) := releaseChunks (offset + datalen) acked chunks
      { s with
          streamAckedOffset := s.streamAckedOffset.insert streamId acked
          streamUnacked :=
            if chunks.isEmpty then s.streamUnacked.erase streamId
            else s.streamUnacked.insert streamId chunks }

/-- `stream_buffers_[stream_id] = {}` -/
def resetBuffers (s : QuicConnection N) (streamId : Int) : QuicConnection N :=
  { s with streamBuffers := s.streamBuffers.insert streamId [] }.record (.opened streamId)

/-- `stream_close_cb`, behind its event -/
def forgetStream (s : QuicConnection N) (streamId : Int) : QuicConnection N :=
  { s with
      streamBuffers := s.streamBuffers.erase streamId
      streamUnacked := s.streamUnacked.erase streamId
      streamAckedOffset := s.streamAckedOffset.erase streamId }.record (.closed streamId)

/-- What the callbacks of the connection do. -/
def onCallback (s : QuicConnection N) : Callback N.Addr → QuicConnection N
  | .recvStreamData streamId offset data fin =>
      s.pushEvent { type := .streamData, streamId := streamId, data := data, fin := fin,
                    offset := offset }
  | .ackedStreamDataOffset streamId offset datalen =>
      (s.ackedStreamDataOffsetCb streamId offset datalen).record (.acked streamId offset datalen)
  | .streamOpen streamId =>
      (s.pushEvent { type := .streamOpened, streamId := streamId }).resetBuffers streamId
  | .streamClose streamId appErrorCode =>
      (s.pushEvent { type := .streamClosed, streamId := streamId,
                     errorCode := appErrorCode }).forgetStream streamId
  | .streamReset streamId appErrorCode =>
      s.pushEvent { type := .streamReset, streamId := streamId, errorCode := appErrorCode }
  | .recvStopSending streamId appErrorCode =>
      s.pushEvent { type := .stopSending, streamId := streamId, errorCode := appErrorCode }
  | .recvDatagram data => s.pushEvent { type := .datagramReceived, data := data }
  | .handshakeCompleted =>
      { s with handshakeCompleted := true, verifyError := none }.pushEvent
        { type := .handshakeCompleted }
  | .pathValidation path success reason =>
      if success then { s with path := path }.pushEvent { type := .pathValidated, reason := reason }
      else s.pushEvent { type := .pathValidationFailed, reason := reason }
  | .tlsEarlyDataRejected =>
      if s.earlyDataRejectedEventPushed then s
      else { s with earlyDataRejectedEventPushed := true }.pushEvent { type := .earlyDataRejected }
  | .newSession ticket => s.pushEvent { type := .sessionTicket, data := ticket }
  | .verifyFailed message => { s with verifyError := some message }

/-! ## Receiving -/

/-- `closing_period_expired` -/
def closingPeriodExpired (s : QuicConnection N) (now : Nat) : Bool :=
  match s.pendingClosePacket, s.closingExpiryNs with
  | some _, some expiry => decide (expiry ≤ now)
  | _, _ => false

/-- A datagram and the addresses it came over. -/
structure Datagram where
  data : Bytes
  localHost : Bytes
  localPort : Nat
  remoteHost : Bytes
  remotePort : Nat
  deriving DecidableEq

/-- `update_path_addresses` -/
def updatePathAddresses (s : QuicConnection N) (datagram : Datagram) :
    Option (QuicConnection N) := do
  let near ← N.fillSockaddr datagram.localHost datagram.localPort
  let remote ← N.fillSockaddr datagram.remoteHost datagram.remotePort
  return { s with path := ⟨near, remote⟩ }

/-- `receive`, behind `ngtcp2_conn_read_pkt`: `saved` is the path that was handed to it and
`pktRecv` the counter in front of the call. -/
def afterRead (s : QuicConnection N) (saved : Ngtcp2Path N.Addr) (pktRecv : Nat) (rv : Int) :
    QuicConnection N × ReceiveResult :=
  if rv = 0 then
    if N.pktRecv s.conn ≠ pktRecv then (s, .accepted) else ({ s with path := saved }, .discarded)
  else if rv = errDraining then (s.shut "connection draining", .closed)
  else if rv = errClosing then
    if s.pendingClosePacket.isSome && !N.inDrainingPeriod s.conn then
      ({ s with closePacketArmed := true, path := saved }, .discarded)
    else (s.shut "connection closing", .closed)
  else if rv = errDropConn then (s.shut "connection dropped", .closed)
  else if rv = errRetry then (s.shut "retry required", .closed)
  else if rv = errCrypto then
    let (s, reason) := s.consumeVerifyError "crypto error"
    (s.shut reason, .closed)
  else if rv = errDecrypt ∨ rv = errDiscardPkt then ({ s with path := saved }, .discarded)
  else if rv < errFatal then (s.shut ("fatal error: " ++ N.strerror rv), .closed)
  else ({ s with path := saved }, .discarded)

/-- The call of `ngtcp2_conn_read_pkt` in `receive`, with the callbacks it fires. -/
def readPkt (s : QuicConnection N) (data : Bytes) (now : Nat) : QuicConnection N × Int :=
  let (conn, callbacks, rv) := N.readPkt s.conn s.path data now
  (callbacks.foldl onCallback { s with conn := conn, timestampNs := now }, rv)

/-- `receive` -/
def receive (s : QuicConnection N) (datagram : Datagram) (now : Nat) :
    QuicConnection N × ReceiveResult :=
  if s.closed && s.pendingClosePacket.isNone then (s, .closed)
  else if s.closingPeriodExpired now then (s, .closed)
  else
    match s.updatePathAddresses datagram with
    | none => (s, .discarded)
    | some s =>
        let (read, rv) := s.readPkt datagram.data now
        read.afterRead s.path (N.pktRecv s.conn) rv

/-! ## Sending -/

/-- `std::vector::resize` -/
def resize (data : Bytes) (size : Nat) : Bytes :=
  data.take size ++ List.replicate (size - data.length) 0

/-- `stream_unacked_` behind a call of `ngtcp2_conn_writev_stream` that was offered `data`: the copy
is cut to what was taken, or removed. -/
def hold (unacked : OrdMap Int (List Bytes)) (streamId : Int) (data : Bytes) (ndatalen : Int) :
    OrdMap Int (List Bytes) :=
  let chunks := (unacked.find? streamId).getD []
  if 0 < ndatalen then unacked.insert streamId (chunks ++ [resize data ndatalen.toNat])
  else unacked.insert streamId chunks

/-- Take `ndatalen` bytes off the front buffer. -/
def consumeFront (buf : StreamData) (rest : List StreamData) (ndatalen : Int) : List StreamData :=
  if 0 < ndatalen then
    let left := buf.data.drop ndatalen.toNat
    if left.isEmpty then rest else { buf with data := left } :: rest
  else buf :: rest

/-- The buffers of a stream behind a call of `ngtcp2_conn_writev_stream` on the first of them. -/
def buffersAfter (buf : StreamData) (rest : List StreamData) (nwrite ndatalen : Int) :
    List StreamData :=
  if nwrite < 0 then
    if nwrite = errWriteMore then consumeFront buf rest ndatalen
    else if nwrite = errStreamShutWr ∨ nwrite = errStreamNotFound then []
    else buf :: rest
  else consumeFront buf rest ndatalen

/-- One call of `ngtcp2_conn_writev_stream` on the front buffer of a stream. -/
def writeFront (s : QuicConnection N) (streamId : Int) (buf : StreamData) (rest : List StreamData)
    (more : Bool) (now : Nat) : QuicConnection N × StreamWritten N.Addr :=
  let (conn, written) := N.writevStream s.conn s.path streamId buf.data buf.fin more now
  let nwrite := written.nwrite
  let ndatalen := written.ndatalen
  ({ s with
      conn := conn
      streamUnacked := hold s.streamUnacked streamId buf.data ndatalen
      streamBuffers := s.streamBuffers.insert streamId (buffersAfter buf rest nwrite ndatalen)
   }.record (.wrote streamId buf.data buf.fin nwrite ndatalen), written)

/-- `stream_buffers_[stream_id]` -/
def buffers (s : QuicConnection N) (streamId : Int) : List StreamData :=
  (s.streamBuffers.find? streamId).getD []

/-- The inner loop of `send` over the buffers of one stream. -/
def writeStream (streamId : Int) (now : Nat) :
    Nat → QuicConnection N → Bool → QuicConnection N × Bool × Option (QuicPacket N.Addr)
  | 0, s, moreUsed => (s, moreUsed, none)
  | fuel + 1, s, moreUsed =>
      match s.buffers streamId with
      | [] => (s, moreUsed, none)
      | buf :: rest =>
          let more := !rest.isEmpty || !s.datagramQueue.isEmpty
          let (s, written) := s.writeFront streamId buf rest more now
          if written.nwrite = errWriteMore ∧ 0 < written.ndatalen then
            writeStream streamId now fuel s (moreUsed || more)
          else if 0 < written.nwrite then
            ({ s with conn := N.updatePktTxTime s.conn now }, moreUsed || more, some written.packet)
          else (s, moreUsed || more, none)

/-- An upper bound of the rounds of the inner loop: every round that goes on takes a byte or a
buffer away. -/
def outstanding (buffers : List StreamData) : Nat :=
  (buffers.map fun buf => buf.data.length + 1).sum

/-- The outer loop of `send` over the streams. -/
def writeStreams (now : Nat) :
    List Int → QuicConnection N → Bool → QuicConnection N × Bool × Option (QuicPacket N.Addr)
  | [], s, moreUsed => (s, moreUsed, none)
  | streamId :: streamIds, s, moreUsed =>
      match writeStream streamId now (outstanding (s.buffers streamId)) s moreUsed with
      | (s, moreUsed, some packet) => (s, moreUsed, some packet)
      | (s, moreUsed, none) => writeStreams now streamIds s moreUsed

/-- The loop of `send` over the datagrams in `datagram_queue_`. -/
def writeDatagrams (now : Nat) :
    List Bytes → QuicConnection N → Bool → QuicConnection N × Bool × Option (QuicPacket N.Addr)
  | [], s, moreUsed => (s, moreUsed, none)
  | datagram :: datagrams, s, moreUsed =>
      let (conn, nwrite, accepted, packet) := N.writevDatagram s.conn s.path datagram now
      let s := { s with conn := conn }
      let popped := { s with datagramQueue := datagrams }
      if nwrite < 0 then
        if nwrite = errWriteMore then
          if accepted then writeDatagrams now datagrams popped true else (s, moreUsed, none)
        -- too large for the peer: dropped, so that it does not block what is behind it
        else if nwrite = errInvalidArgument then writeDatagrams now datagrams popped moreUsed
        else if nwrite = errInvalidState ∧ (N.remoteMaxDatagramFrameSize conn).isSome then
          writeDatagrams now datagrams popped moreUsed
        else (s, moreUsed, none)
      else
        let s := if accepted then popped else s
        if 0 < nwrite then
          ({ s with conn := N.updatePktTxTime s.conn now }, moreUsed || accepted, some packet)
        else (s, moreUsed || accepted, none)

/-- The end of `send`: the packet that was begun with the MORE flag, or one without stream data. -/
def finishSend (s : QuicConnection N) (moreUsed : Bool) (now : Nat) :
    QuicConnection N × Option (QuicPacket N.Addr) :=
  let writePkt := fun s : QuicConnection N =>
    let (conn, nwrite, packet) := N.writePkt s.conn s.path now
    if 0 < nwrite then ({ s with conn := N.updatePktTxTime conn now }, some packet)
    else ({ s with conn := conn }, none)
  if moreUsed then
    let (conn, nwrite, packet) := N.finishPacket s.conn s.path now
    if 0 < nwrite then ({ s with conn := N.updatePktTxTime conn now }, some packet)
    else writePkt { s with conn := conn }
  else writePkt s

/-- `send` while no CONNECTION_CLOSE is kept. -/
def sendData (s : QuicConnection N) (now : Nat) : QuicConnection N × Option (QuicPacket N.Addr) :=
  let s := { s with timestampNs := now }
  match writeStreams now s.streamBuffers.keys s false with
  | (s, _, some packet) => (s, some packet)
  | (s, moreUsed, none) =>
      match writeDatagrams now s.datagramQueue s moreUsed with
      | (s, _, some packet) => (s, some packet)
      | (s, moreUsed, none) => s.finishSend moreUsed now

/-- `send` while a CONNECTION_CLOSE is kept. -/
def sendClose (s : QuicConnection N) (packet : QuicPacket N.Addr) (now : Nat) :
    QuicConnection N × Option (QuicPacket N.Addr) :=
  if !s.closePacketDeliveredOnce then
    ({ s with closePacketDeliveredOnce := true, closePacketArmed := false }, some packet)
  else if s.closingPeriodExpired now then (s, none)
  else if s.closePacketArmed then ({ s with closePacketArmed := false }, some packet)
  else (s, none)

/-- `send` -/
def send (s : QuicConnection N) (now : Nat) : QuicConnection N × Option (QuicPacket N.Addr) :=
  match s.pendingClosePacket with
  | some packet => s.sendClose packet now
  | none => if s.closed then (s, none) else s.sendData now

/-! ## Timer -/

/-- `get_timeout_ns` -/
def getTimeoutNs (s : QuicConnection N) (now : Nat) : Option Nat :=
  match s.pendingClosePacket, s.closingExpiryNs with
  | some _, some expiry => if expiry ≤ now then some 0 else some (expiry - now)
  | _, _ =>
      if s.closed then none
      else (N.getExpiry s.conn).map fun expiry => if expiry ≤ now then 0 else expiry - now

/-- `handle_timeout`, behind `ngtcp2_conn_handle_expiry` -/
def afterExpiry (s : QuicConnection N) (rv : Int) : QuicConnection N :=
  if rv = 0 then s
  else if rv = errIdleClose then s.shut "idle timeout"
  else if rv = errHandshakeTimeout then s.shut "handshake timeout"
  else if rv < errFatal then s.shut ("timeout error: " ++ N.strerror rv)
  else s

/-- `handle_timeout` -/
def handleTimeout (s : QuicConnection N) (now : Nat) : QuicConnection N :=
  if s.pendingClosePacket.isSome then
    if s.closingPeriodExpired now && s.closePacketDeliveredOnce then
      { s with pendingClosePacket := none, closingExpiryNs := none, closePacketArmed := false }
    else s
  else if s.closed then s
  else
    let (conn, callbacks, rv) := N.handleExpiry s.conn now
    (callbacks.foldl onCallback { s with conn := conn, timestampNs := now }).afterExpiry rv

/-! ## Streams, datagrams, close -/

/-- `open_stream` -/
def openStream (s : QuicConnection N) (bidirectional : Bool) : QuicConnection N × Int :=
  if s.closed || (!s.handshakeCompleted && !s.earlyDataAttempted) then (s, -1)
  else
    let (conn, rv, streamId) := N.openStream s.conn bidirectional
    let s := { s with conn := conn }
    if rv ≠ 0 then (s, -1) else (s.resetBuffers streamId, streamId)

/-- `send_stream_data` -/
def sendStreamData (s : QuicConnection N) (streamId : Int) (data : Bytes) (fin : Bool) :
    QuicConnection N :=
  let payload : StreamData := ⟨data, fin⟩
  if s.closed then s
  else
    { s with streamBuffers := s.streamBuffers.insert streamId (s.buffers streamId ++ [payload])
    }.record (.queued streamId payload)

/-- The result of a `ngtcp2_conn_shutdown_stream*` call: only a fatal one ends the connection. -/
def afterShutdown (s : QuicConnection N) (rv : Int) (text : String) : QuicConnection N :=
  if rv ≠ 0 ∧ rv ≠ errStreamNotFound ∧ rv < errFatal then s.shut (text ++ N.strerror rv) else s

/-- `stream_buffers_.erase(stream_id)` -/
def eraseBuffers (s : QuicConnection N) (streamId : Int) : QuicConnection N :=
  { s with streamBuffers := s.streamBuffers.erase streamId }.record (.ended streamId)

/-- `close_stream` -/
def closeStream (s : QuicConnection N) (streamId : Int) (errorCode : Nat) : QuicConnection N :=
  if s.closed then s
  else
    let (conn, rv) := N.shutdownStream s.conn streamId errorCode
    ({ s with conn := conn }.afterShutdown rv "stream shutdown error: ").eraseBuffers streamId

/-- `stop_sending` -/
def stopSending (s : QuicConnection N) (streamId : Int) (errorCode : Nat) : QuicConnection N :=
  if s.closed then s
  else
    let (conn, rv) := N.shutdownStreamRead s.conn streamId errorCode
    { s with conn := conn }.afterShutdown rv "stop sending error: "

/-- `reset_stream` -/
def resetStream (s : QuicConnection N) (streamId : Int) (errorCode : Nat) : QuicConnection N :=
  if s.closed then s
  else
    let (conn, rv) := N.shutdownStreamWrite s.conn streamId errorCode
    ({ s with conn := conn }.afterShutdown rv "reset stream error: ").eraseBuffers streamId

/-- `send_datagram` -/
def sendDatagram (s : QuicConnection N) (data : Bytes) : QuicConnection N :=
  let queued := { s with datagramQueue := s.datagramQueue ++ [data] }
  if s.closed || !s.enableDatagram then s
  else
    match N.remoteMaxDatagramFrameSize s.conn with
    | none => queued
    | some limit => if 1 + quicVarintLength data.length + data.length > limit then s else queued

/-- `close` -/
def close (s : QuicConnection N) (errorCode : Nat) (reason : Bytes) (now : Nat) :
    QuicConnection N :=
  if s.closed then s
  else
    let (conn, nwrite, packet) := N.writeConnectionClose s.conn s.path errorCode reason now
    let s := { s with conn := conn, timestampNs := now, closed := true }
    if 0 < nwrite then
      { s with
          pendingClosePacket := some packet
          closePacketArmed := true
          -- the clock counts in `uint64_t`
          closingExpiryNs := some ((now + 3 * N.getPto conn) % 2 ^ 64)
          closePacketDeliveredOnce := false }
    else s

/-- `next_event` -/
def nextEvent (s : QuicConnection N) : QuicConnection N × Option QuicEvent :=
  match s.events with
  | [] => (s, none)
  | event :: events => ({ s with events := events }, some event)

/-! ## Runs -/

/-- A connection as the factories of the bindings return it. -/
def create (conn : N.Conn) (path : Ngtcp2Path N.Addr) (enableDatagram earlyDataAttempted : Bool) :
    QuicConnection N :=
  { conn := conn, path := path, enableDatagram := enableDatagram,
    earlyDataAttempted := earlyDataAttempted }

/-- A call of the application. -/
inductive Input
  | receive (datagram : Datagram)
  | send
  | getTimeoutNs
  | handleTimeout
  | openStream (bidirectional : Bool)
  | sendStreamData (streamId : Int) (data : Bytes) (fin : Bool)
  | closeStream (streamId : Int) (errorCode : Nat)
  | stopSending (streamId : Int) (errorCode : Nat)
  | resetStream (streamId : Int) (errorCode : Nat)
  | sendDatagram (data : Bytes)
  | close (errorCode : Nat) (reason : Bytes)
  | nextEvent
  deriving DecidableEq

/-- What a call returns. -/
inductive Output (Addr : Type)
  | nothing
  | received (result : ReceiveResult)
  | packet (packet : Option (QuicPacket Addr))
  | timeout (ns : Option Nat)
  | streamId (streamId : Int)
  | event (event : Option QuicEvent)
  deriving DecidableEq

/-- One call at the time `now`. -/
def step (s : QuicConnection N) (now : Nat) : Input → QuicConnection N × Output N.Addr
  | .receive datagram => (s.receive datagram now).map id .received
  | .send => (s.send now).map id .packet
  | .getTimeoutNs => (s, .timeout (s.getTimeoutNs now))
  | .handleTimeout => (s.handleTimeout now, .nothing)
  | .openStream bidirectional => (s.openStream bidirectional).map id .streamId
  | .sendStreamData streamId data fin => (s.sendStreamData streamId data fin, .nothing)
  | .closeStream streamId errorCode => (s.closeStream streamId errorCode, .nothing)
  | .stopSending streamId errorCode => (s.stopSending streamId errorCode, .nothing)
  | .resetStream streamId errorCode => (s.resetStream streamId errorCode, .nothing)
  | .sendDatagram data => (s.sendDatagram data, .nothing)
  | .close errorCode reason => (s.close errorCode reason now, .nothing)
  | .nextEvent => (s.nextEvent).map id .event

/-- A call with its time and what it returned. -/
structure Turn (Addr : Type) where
  now : Nat
  input : Input
  output : Output Addr
  deriving DecidableEq

/-- One call leads from `s` to `s'`; a run is a `Path` of such turns. -/
def Takes (s : QuicConnection N) (turn : Turn N.Addr) (s' : QuicConnection N) : Prop :=
  s.step turn.now turn.input = (s', turn.output)

/-- The last state and the turns of the calls `calls`. -/
def run (s : QuicConnection N) : List (Nat × Input) → QuicConnection N × List (Turn N.Addr)
  | [] => (s, [])
  | (now, input) :: calls =>
      let (mid, output) := s.step now input
      let (last, turns) := run mid calls
      (last, ⟨now, input, output⟩ :: turns)

theorem run_path (s : QuicConnection N) (calls : List (Nat × Input)) :
    Path Takes s (s.run calls).2 (s.run calls).1 := by
  induction calls generalizing s with
  | nil => rfl
  | cons call calls ih => exact ⟨(s.step call.1 call.2).1, rfl, ih _⟩

end QuicConnection

end Quic
end WebTransport
