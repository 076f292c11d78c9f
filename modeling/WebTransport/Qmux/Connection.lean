import WebTransport.Bindings.QuicVarint
import WebTransport.Bindings.TextUtil

/-!
# Qmux.Connection — the QMux connection object (`qmux.cpp`)

Streams and datagrams over one TLS byte stream.  The protocol itself is dwnx, which is outside:
`Dwnx` is whatever answers the calls of a `QmuxConnection`.  An application queues payloads with
`send_stream_data` and `send_datagram`, and takes finished records with `send`.
-/

namespace WebTransport
namespace Qmux

open Bindings

/-! ## dwnx -/

/-- `DWNX_ERR_INVALID_ARGUMENT` -/
def errInvalidArgument : Int := -201

/-- `DWNX_ERR_INVALID_STATE` -/
def errInvalidState : Int := -204

/-- `DWNX_ERR_STREAM_DATA_BLOCKED` -/
def errStreamDataBlocked : Int := -208

/-- `DWNX_ERR_STREAM_SHUT_WR` -/
def errStreamShutWr : Int := -219

/-- `DWNX_ERR_WRITE_MORE` -/
def errWriteMore : Int := -230

/-- `DWNX_DEFAULT_MAX_RECORD_SIZE` -/
def defaultMaxRecordSize : Nat := 16382

/-- `PendingStreamData` -/
structure PendingStreamData where
  streamId : Int
  data : Bytes
  fin : Bool
  deriving DecidableEq

/-- dwnx as a `QmuxConnection` sees it; the clock is part of its state. -/
structure Dwnx where
  Conn : Type
  /-- `dwnx_conn_writev_stream`: the result, `datalen` and the record -/
  writevStream : Conn → Option PendingStreamData → Conn × Int × Int × Bytes
  /-- `dwnx_conn_writev_datagram`: the result, `accepted` and the record -/
  writevDatagram : Conn → Bytes → Conn × Int × Bool × Bytes
  writeRecord : Conn → Conn × Int × Bytes
  writeConnectionClose : Conn → Nat → Bytes → Conn × Int × Bytes
  /-- `dwnx_conn_read`: the result, and the peer's `max_datagram_frame_size` if its transport
  parameters were among the bytes -/
  read : Conn → Bytes → Conn × Int × Option Nat
  handleExpiry : Conn → Conn
  openStream : Conn → Bool → Conn × Int × Int
  shutdownStreamWrite : Conn → Int → Nat → Conn × Int
  shutdownStreamRead : Conn → Int → Nat → Conn × Int
  shutdownStream : Conn → Int → Nat → Conn × Int

/-- A call of `dwnx_conn_writev_stream`, with the queue before and behind it. -/
structure Attempt where
  before : List PendingStreamData
  n : Int
  datalen : Int
  after : List PendingStreamData
  deriving DecidableEq

/-! ## State -/

/-- `QmuxConnection`, the send side; `attempts` records what was done and is never read by the code.
`conn_` is set once at creation, so the null checks are left out. -/
structure QmuxConnection (D : Dwnx) where
  conn : D.Conn
  maxDatagramFrameSize : Nat
  pendingStreamData : List PendingStreamData := []
  pendingDatagrams : List Bytes := []
  remoteTransportParamsReceived : Bool := false
  remoteMaxDatagramFrameSize : Nat := 0
  closeErrorCode : Nat := 0
  closeReason : Bytes := []
  closeRequested : Bool := false
  attempts : List Attempt := []

namespace QmuxConnection

variable {D : Dwnx}

/-! ## Sending -/

/-- `consume_stream_data` -/
def consumeStreamData (pending : List PendingStreamData) (datalen : Int) : List PendingStreamData :=
  match pending with
  | [] => []
  | head :: rest =>
      if datalen ≤ 0 then head :: rest
      else if datalen.toNat ≥ head.data.length then rest
      else { head with data := head.data.drop datalen.toNat } :: rest

/-- The queue behind a result of `dwnx_conn_writev_stream`. -/
def afterWrite (pending : List PendingStreamData) (n datalen : Int) : List PendingStreamData :=
  if n > 0 ∨ n = errWriteMore then consumeStreamData pending datalen
  else if n = errStreamDataBlocked ∨ n = errStreamShutWr then pending.tail
  else pending

/-- One call of `dwnx_conn_writev_stream` on the head of the queue. -/
def attempt (s : QmuxConnection D) : QmuxConnection D × Int × Bytes :=
  let (conn, n, datalen, record) := D.writevStream s.conn s.pendingStreamData.head?
  let after := afterWrite s.pendingStreamData n datalen
  ({ s with
      conn := conn
      pendingStreamData := after
      attempts := s.attempts ++ [⟨s.pendingStreamData, n, datalen, after⟩] }, n, record)

/-- The loop of `write_pending_stream_data`. -/
def writeStreamLoop : Nat → QmuxConnection D → QmuxConnection D × Option Bytes
  | 0, s => (s, none)
  | attempts + 1, s =>
      let (s, n, record) := s.attempt
      if n > 0 then (s, some record)
      else if n = errWriteMore ∨ n = errStreamDataBlocked ∨ n = errStreamShutWr then
        writeStreamLoop attempts s
      else (s, none)

/-- `write_pending_stream_data` -/
def writePendingStreamData (s : QmuxConnection D) : QmuxConnection D × Option Bytes :=
  writeStreamLoop 64 s

/-- The loop of `write_pending_datagrams`. -/
def writeDatagramLoop : Nat → QmuxConnection D → QmuxConnection D × Option Bytes
  | 0, s => (s, none)
  | attempts + 1, s =>
      match s.pendingDatagrams with
      | [] => (s, none)
      | data :: rest =>
          let (conn, n, accepted, record) := D.writevDatagram s.conn data
          let s := { s with conn := conn }
          if n > 0 then
            (if accepted then { s with pendingDatagrams := rest } else s, some record)
          else if n = errWriteMore then
            if accepted then writeDatagramLoop attempts { s with pendingDatagrams := rest }
            else (s, none)
          else if n = errInvalidArgument then
            writeDatagramLoop attempts { s with pendingDatagrams := rest }
          else if n = errInvalidState then
            if s.remoteTransportParamsReceived then
              writeDatagramLoop attempts { s with pendingDatagrams := rest }
            else (s, none)
          else (s, none)

/-- `write_pending_datagrams` -/
def writePendingDatagrams (s : QmuxConnection D) : QmuxConnection D × Option Bytes :=
  writeDatagramLoop 64 s

/-- `write_connection_close` -/
def writeConnectionClose (s : QmuxConnection D) : QmuxConnection D × Option Bytes :=
  let (conn, n, record) := D.writeConnectionClose s.conn s.closeErrorCode s.closeReason
  ({ s with conn := conn }, if n ≤ 0 then none else some record)

/-- The end of `send`: what else dwnx has to say. -/
def writeRecord (s : QmuxConnection D) : QmuxConnection D × Option Bytes :=
  let (conn, n, record) := D.writeRecord s.conn
  ({ s with conn := conn }, if n ≤ 0 then none else some record)

/-- `send` -/
def send (s : QmuxConnection D) : QmuxConnection D × Option Bytes :=
  if s.closeRequested then { s with closeRequested := false }.writeConnectionClose
  else
    match s.writePendingStreamData with
    | (s, some record) => (s, some record)
    | (s, none) =>
        match s.writePendingDatagrams with
        | (s, some record) => (s, some record)
        | (s, none) => s.writeRecord

/-- `send_stream_data` -/
def sendStreamData (s : QmuxConnection D) (streamId : Int) (data : Bytes) (fin : Bool) :
    QmuxConnection D :=
  { s with pendingStreamData := s.pendingStreamData ++ [⟨streamId, data, fin⟩] }

/-- `datagram_frame_length` -/
def datagramFrameLength (datalen : Nat) : Nat := 1 + quicVarintLength datalen + datalen

/-- `send_datagram` -/
def sendDatagram (s : QmuxConnection D) (data : Bytes) : QmuxConnection D :=
  if s.closeRequested then s
  else if s.maxDatagramFrameSize = 0 then s
  else if datagramFrameLength data.length > defaultMaxRecordSize then s
  else if s.remoteTransportParamsReceived ∧
      datagramFrameLength data.length > s.remoteMaxDatagramFrameSize then s
  else { s with pendingDatagrams := s.pendingDatagrams ++ [data] }

/-! ## The rest of the API -/

/-- `receive`, with `recv_transport_params_cb` -/
def receive (s : QmuxConnection D) (data : Bytes) : QmuxConnection D × Int :=
  let (conn, rv, params) := D.read s.conn data
  match params with
  | some size =>
      ({ s with
          conn := conn, remoteTransportParamsReceived := true, remoteMaxDatagramFrameSize := size },
        rv)
  | none => ({ s with conn := conn }, rv)

/-- `handle_timeout` -/
def handleTimeout (s : QmuxConnection D) : QmuxConnection D :=
  { s with conn := D.handleExpiry s.conn }

/-- `open_stream` -/
def openStream (s : QmuxConnection D) (bidirectional : Bool) : QmuxConnection D × Int :=
  let (conn, rv, streamId) := D.openStream s.conn bidirectional
  ({ s with conn := conn }, if rv ≠ 0 then -1 else streamId)

/-- `check_varint_value` -/
def checkVarintValue (value : Nat) (name : String) : Except String Unit :=
  if value > kMaxQuicVarint then
    .error (name ++ " must be at most " ++ toString kMaxQuicVarint ++ ": got " ++ toString value)
  else .ok ()

/-- The three calls that end a direction of a stream. -/
def shutdown (s : QmuxConnection D) (call : D.Conn → Int → Nat → D.Conn × Int) (streamId : Int)
    (errorCode : Nat) : Except String (QmuxConnection D × Int) := do
  checkVarintValue errorCode "QMux error_code"
  let (conn, rv) := call s.conn streamId errorCode
  .ok ({ s with conn := conn }, rv)

/-- `reset_stream` -/
def resetStream (s : QmuxConnection D) := s.shutdown D.shutdownStreamWrite

/-- `stop_sending` -/
def stopSending (s : QmuxConnection D) := s.shutdown D.shutdownStreamRead

/-- `close_stream` -/
def closeStream (s : QmuxConnection D) := s.shutdown D.shutdownStream

/-- `connection_close_reason_limit` -/
def connectionCloseReasonLimit (errorCode : Nat) : Nat :=
  let limit := defaultMaxRecordSize - 1 - quicVarintLength errorCode
  limit - quicVarintLength limit

/-- The walk of `truncate_utf8` back over continuation bytes, at most `steps` of them. -/
def skipContinuation (value : Bytes) : Nat → Nat → Nat
  | 0, head => head
  | steps + 1, head =>
      match value[head - 1]? with
      | some b =>
          if head > 0 ∧ b.toNat / 2 ^ 6 = 0x80 / 2 ^ 6 then skipContinuation value steps (head - 1)
          else head
      | none => head

/-- The length of a character by its lead byte, zero for a byte that is none. -/
def expectedLength (lead : Nat) : Nat :=
  if lead / 2 ^ 7 = 0 then 1
  else if lead / 2 ^ 5 = 0xC0 / 2 ^ 5 then 2
  else if lead / 2 ^ 4 = 0xE0 / 2 ^ 4 then 3
  else if lead / 2 ^ 3 = 0xF0 / 2 ^ 3 then 4
  else 0

/-- `truncate_utf8` -/
def truncateUtf8 (value : Bytes) (limit : Nat) : Bytes :=
  if value.length ≤ limit then value
  else
    let value := value.take limit
    let cursor := value.length
    let head := skipContinuation value (min cursor 3) cursor
    match head, value[head - 1]? with
    | 0, _ => value
    | _ + 1, none => value
    | head + 1, some lead =>
        let expected := expectedLength lead.toNat
        if expected ≠ 0 ∧ head + expected > cursor then value.take head else value

/-- `close` -/
def close (s : QmuxConnection D) (errorCode : Nat) (reason : Bytes) :
    Except String (QmuxConnection D) := do
  checkVarintValue errorCode "QMux error_code"
  .ok { s with
        closeReason := truncateUtf8 reason (connectionCloseReasonLimit errorCode)
        closeErrorCode := errorCode
        closeRequested := true }

/-! ## Runs -/

/-- The API of a `QmuxConnection`; what dwnx does inside a call is up to `D`. -/
inductive Input
  | receive (data : Bytes)
  | send
  | handleTimeout
  | openStream (bidirectional : Bool)
  | sendStreamData (streamId : Int) (data : Bytes) (fin : Bool)
  | sendDatagram (data : Bytes)
  | resetStream (streamId : Int) (errorCode : Nat)
  | stopSending (streamId : Int) (errorCode : Nat)
  | closeStream (streamId : Int) (errorCode : Nat)
  | close (errorCode : Nat) (reason : Bytes)
  deriving DecidableEq

/-- The state behind a call that may throw. -/
def orElse {α : Type} (s : QmuxConnection D) (f : α → QmuxConnection D) :
    Except String α → QmuxConnection D
  | .ok a => f a
  | .error _ => s

/-- One API call; a call that throws leaves the state as it is. -/
def step (s : QmuxConnection D) : Input → QmuxConnection D
  | .receive data => (s.receive data).1
  | .send => s.send.1
  | .handleTimeout => s.handleTimeout
  | .openStream bidirectional => (s.openStream bidirectional).1
  | .sendStreamData streamId data fin => s.sendStreamData streamId data fin
  | .sendDatagram data => s.sendDatagram data
  | .resetStream streamId errorCode => s.orElse Prod.fst (s.resetStream streamId errorCode)
  | .stopSending streamId errorCode => s.orElse Prod.fst (s.stopSending streamId errorCode)
  | .closeStream streamId errorCode => s.orElse Prod.fst (s.closeStream streamId errorCode)
  | .close errorCode reason => s.orElse id (s.close errorCode reason)

/-- A whole run. -/
def run (s : QmuxConnection D) (inputs : List Input) : QmuxConnection D := inputs.foldl step s

/-- `create_client` and `create_server`, the configuration checked. -/
def create (conn : D.Conn) (maxDatagramFrameSize : Nat) : QmuxConnection D :=
  { conn := conn, maxDatagramFrameSize := maxDatagramFrameSize }

end QmuxConnection

end Qmux
end WebTransport
