import WebTransport.Bindings.QuicVarint
import WebTransport.Data.OrdMap

/-!
# Quic.Types — data of the QUIC connection (`quic.h`)

The records of the bindings and the boundary to ngtcp2.  ngtcp2 itself is outside: `Ngtcp2` is
whatever answers the calls of a `QuicConnection`.  The calls that process a packet or a timer also
fire callbacks, the calls that write do not.
-/

namespace WebTransport
namespace Quic

/-! ## ngtcp2 error codes -/

/-- `NGTCP2_ERR_INVALID_ARGUMENT` -/
def errInvalidArgument : Int := -201

/-- `NGTCP2_ERR_INVALID_STATE` -/
def errInvalidState : Int := -204

/-- `NGTCP2_ERR_STREAM_DATA_BLOCKED` -/
def errStreamDataBlocked : Int := -208

/-- `NGTCP2_ERR_CRYPTO` -/
def errCrypto : Int := -213

/-- `NGTCP2_ERR_DECRYPT` -/
def errDecrypt : Int := -218

/-- `NGTCP2_ERR_STREAM_SHUT_WR` -/
def errStreamShutWr : Int := -219

/-- `NGTCP2_ERR_STREAM_NOT_FOUND` -/
def errStreamNotFound : Int := -220

/-- `NGTCP2_ERR_CLOSING` -/
def errClosing : Int := -223

/-- `NGTCP2_ERR_DRAINING` -/
def errDraining : Int := -224

/-- `NGTCP2_ERR_DISCARD_PKT` -/
def errDiscardPkt : Int := -226

/-- `NGTCP2_ERR_WRITE_MORE` -/
def errWriteMore : Int := -230

/-- `NGTCP2_ERR_RETRY` -/
def errRetry : Int := -231

/-- `NGTCP2_ERR_DROP_CONN` -/
def errDropConn : Int := -232

/-- `NGTCP2_ERR_HANDSHAKE_TIMEOUT` -/
def errHandshakeTimeout : Int := -236

/-- `NGTCP2_ERR_IDLE_CLOSE` -/
def errIdleClose : Int := -238

/-- `NGTCP2_ERR_FATAL` -/
def errFatal : Int := -500

/-! ## Records -/

/-- `ReceiveResult` -/
inductive ReceiveResult
  | accepted
  | discarded
  | closed
  deriving DecidableEq, Repr

/-- `QuicEventType` -/
inductive QuicEventType
  | handshakeCompleted
  | connectionClosed
  | streamData
  | streamOpened
  | streamClosed
  | streamReset
  | datagramReceived
  | sessionTicket
  | earlyDataRejected
  | pathValidated
  | pathValidationFailed
  | stopSending
  deriving DecidableEq, Repr

/-- `QuicEvent` -/
structure QuicEvent where
  type : QuicEventType
  streamId : Int := -1
  data : Bytes := []
  fin : Bool := false
  errorCode : Nat := 0
  reason : String := ""
  offset : Nat := 0
  deriving DecidableEq

/-- `StreamData` -/
structure StreamData where
  data : Bytes
  fin : Bool
  deriving DecidableEq

/-- `ngtcp2_path`: `local_addr_` and `remote_addr_` with their lengths. -/
structure Ngtcp2Path (Addr : Type) where
  near : Addr
  remote : Addr
  deriving DecidableEq

/-- `QuicPacket` -/
structure QuicPacket (Addr : Type) where
  data : Bytes
  path : Ngtcp2Path Addr
  deriving DecidableEq

/-! ## The boundary to ngtcp2 -/

/-- What ngtcp2 fires while it processes a packet or a timer. -/
inductive Callback (Addr : Type)
  | recvStreamData (streamId : Int) (offset : Nat) (data : Bytes) (fin : Bool)
  | ackedStreamDataOffset (streamId : Int) (offset datalen : Nat)
  | streamOpen (streamId : Int)
  | streamClose (streamId : Int) (appErrorCode : Nat)
  | streamReset (streamId : Int) (appErrorCode : Nat)
  | recvStopSending (streamId : Int) (appErrorCode : Nat)
  | recvDatagram (data : Bytes)
  | handshakeCompleted
  | pathValidation (path : Ngtcp2Path Addr) (success : Bool) (reason : String)
  /-- also what `handshake_completed_cb` brings about when the early data was not accepted -/
  | tlsEarlyDataRejected
  | newSession (ticket : Bytes)
  /-- the verify callback of the application raised -/
  | verifyFailed (message : String)

/-- The result of `ngtcp2_conn_writev_stream`. -/
structure StreamWritten (Addr : Type) where
  nwrite : Int
  ndatalen : Int
  packet : QuicPacket Addr

/-- ngtcp2 as a `QuicConnection` sees it, with the address parser of the system. -/
structure Ngtcp2 where
  Conn : Type
  Addr : Type
  fillSockaddr : Bytes → Nat → Option Addr
  readPkt : Conn → Ngtcp2Path Addr → Bytes → Nat → Conn × List (Callback Addr) × Int
  /-- `pkt_recv` of `ngtcp2_conn_get_conn_info2` -/
  pktRecv : Conn → Nat
  handleExpiry : Conn → Nat → Conn × List (Callback Addr) × Int
  /-- `ngtcp2_conn_get_expiry`; `none` is `UINT64_MAX` -/
  getExpiry : Conn → Option Nat
  inDrainingPeriod : Conn → Bool
  /-- `ngtcp2_conn_writev_stream` with a stream, its bytes, the FIN and the MORE flag -/
  writevStream : Conn → Ngtcp2Path Addr → Int → Bytes → Bool → Bool → Nat → Conn × StreamWritten Addr
  /-- `ngtcp2_conn_writev_stream` with stream -1, to finish a packet -/
  finishPacket : Conn → Ngtcp2Path Addr → Nat → Conn × Int × QuicPacket Addr
  writevDatagram : Conn → Ngtcp2Path Addr → Bytes → Nat → Conn × Int × Bool × QuicPacket Addr
  writePkt : Conn → Ngtcp2Path Addr → Nat → Conn × Int × QuicPacket Addr
  updatePktTxTime : Conn → Nat → Conn
  writeConnectionClose : Conn → Ngtcp2Path Addr → Nat → Bytes → Nat → Conn × Int × QuicPacket Addr
  getPto : Conn → Nat
  openStream : Conn → Bool → Conn × Int × Int
  shutdownStream : Conn → Int → Nat → Conn × Int
  shutdownStreamRead : Conn → Int → Nat → Conn × Int
  shutdownStreamWrite : Conn → Int → Nat → Conn × Int
  /-- `max_datagram_frame_size` of the peer's transport parameters, once they are known -/
  remoteMaxDatagramFrameSize : Conn → Option Nat
  strerror : Int → String

/-- What happens to the streams of a connection. -/
inductive Happening
  /-- `open_stream`, or `stream_open_cb` -/
  | opened (streamId : Int)
  | queued (streamId : Int) (payload : StreamData)
  /-- a call of `ngtcp2_conn_writev_stream` and its result -/
  | wrote (streamId : Int) (offered : Bytes) (fin : Bool) (nwrite ndatalen : Int)
  | acked (streamId : Int) (offset datalen : Nat)
  /-- `reset_stream` or `close_stream` -/
  | ended (streamId : Int)
  /-- `stream_close_cb` -/
  | closed (streamId : Int)
  deriving DecidableEq

/-! ## State -/

/-- `QuicConnection`; `pushed` and `log` record what was done and are never read by the code.
`conn_` is set once at creation, so the null checks are left out. -/
structure QuicConnection (N : Ngtcp2) where
  conn : N.Conn
  path : Ngtcp2Path N.Addr
  enableDatagram : Bool
  earlyDataAttempted : Bool
  events : List QuicEvent := []
  streamBuffers : OrdMap Int (List StreamData) := ∅
  streamUnacked : OrdMap Int (List Bytes) := ∅
  streamAckedOffset : OrdMap Int Nat := ∅
  datagramQueue : List Bytes := []
  handshakeCompleted : Bool := false
  closed : Bool := false
  verifyError : Option String := none
  earlyDataRejectedEventPushed : Bool := false
  pendingClosePacket : Option (QuicPacket N.Addr) := none
  closePacketArmed : Bool := false
  closingExpiryNs : Option Nat := none
  closePacketDeliveredOnce : Bool := false
  timestampNs : Nat := 0
  pushed : List QuicEvent := []
  log : List Happening := []

end Quic
end WebTransport
