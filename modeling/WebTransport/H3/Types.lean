import WebTransport.Bindings.HeaderConvert
import WebTransport.Bindings.TextUtil
import WebTransport.Data.OrdSet

/-!
# H3.Types — data of WebTransport over HTTP/3 (`webtransport_h3.h`)

The records of the bindings and the boundary to nghttp3.  nghttp3 itself is outside: `Nghttp3` is
whatever answers the calls of an `H3Session`.  An answer is a result together with the callbacks
that nghttp3 fires before it returns; which callbacks a call may fire is in the type of the answer.
-/

namespace WebTransport
namespace H3

open Bindings

abbrev HeaderList := List (Bytes × Bytes)

/-! ## Configuration and events -/

/-- `H3SessionConfig`, the members that the session reads behind its creation. -/
structure H3SessionConfig where
  allowedOrigins : List Bytes := []
  wtPreAcceptBufferLimit : Nat := 65536
  deriving DecidableEq

/-- `H3EventType` -/
inductive H3EventType
  | sessionReady
  | sessionClosed
  | streamData
  | streamClosed
  | resetStream
  | stopSending
  | datagram
  | error
  | sessionRejected
  | goAway
  deriving DecidableEq, Repr

/-- `H3Event` -/
structure H3Event where
  type : H3EventType
  sessionId : Int := -1
  streamId : Int := -1
  data : Bytes := []
  errorCode : Nat := 0
  errorMessage : Bytes := []
  statusCode : Nat := 0
  goawayId : Nat := 0
  headers : HeaderList := []
  deriving DecidableEq

/-- `StreamInfo` -/
structure StreamInfo where
  streamId : Int
  sessionId : Int
  isUnidirectional : Bool
  isIncoming : Bool
  isWriteRegistered : Bool
  deriving DecidableEq

/-- `StreamBuffer` -/
structure StreamBuffer where
  data : Bytes
  offset : Nat := 0
  fin : Bool := false
  deriving DecidableEq

/-- `HeadersFrameGuard` -/
structure HeadersFrameGuard where
  headerParsed : Bool := false
  isHeaders : Bool := false
  headersTotalLen : Nat := 0
  headersForwarded : Nat := 0
  parsePrefix : Bytes := []
  heldData : Bytes := []
  heldFin : Bool := false
  deriving DecidableEq

/-! ## Constants -/

/-- `kWtApplicationErrorFirst` -/
def kWtApplicationErrorFirst : Nat := 0x52e4a40fa8db

/-- `kMaxApplicationErrorCode` -/
def kMaxApplicationErrorCode : Nat := 0xffffffff

/-- `webtransport_code_to_http_code` of `webtransport_h3.cpp` -/
def Cpp.webtransportCodeToHttpCode (n : UInt64) : Except String UInt64 :=
  if n > 0xffffffff then .error "application error code out of uint32 range"
  else .ok (0x52e4a40fa8db + n + n / 0x1e)

/-- `kMaxApplicationErrorMessageBytes` -/
def kMaxApplicationErrorMessageBytes : Nat := 1024

/-- `kH3MessageError` (`NGHTTP3_H3_MESSAGE_ERROR`) -/
def kH3MessageError : Nat := 0x010e

/-- `kH3FrameTypeHeaders` -/
def kH3FrameTypeHeaders : Nat := 0x01

/-- `NGHTTP3_WT_BUFFERED_STREAM_REJECTED` -/
def wtBufferedStreamRejected : Nat := 0x3994bd84

/-- `max_varint` of the range checks. -/
def maxVarint : Int := 2 ^ 62 - 1

/-! ## The boundary to nghttp3 -/

/-- What nghttp3 fires while it closes a stream or a session. -/
inductive StreamCallback
  | streamClose (streamId : Int) (appErrorCode : Nat)
  | stopSending (streamId : Int) (appErrorCode : Nat)
  | resetStream (streamId : Int) (appErrorCode : Nat)
  deriving DecidableEq

/-- What nghttp3 fires while it writes. -/
inductive WriteCallback
  | readData (streamId : Int)
  | ackedStreamData (streamId : Int) (datalen : Nat)
  deriving DecidableEq

/-- What nghttp3 fires while it reads; `deferred_consume` does nothing and is left out. -/
inductive Callback
  | stream (c : StreamCallback)
  | recvData (streamId : Int) (data : Bytes)
  | beginHeaders (streamId : Int)
  | recvHeader (streamId : Int) (name value : Bytes)
  | endHeaders (streamId : Int)
  | endStream (streamId : Int)
  | shutdown (id : Int)
  | recvSettings2 (wtEnabled enableConnectProtocol h3Datagram : Nat)
  | recvWtData (sessionId streamId : Int) (data : Bytes)
  | recvWtCloseSession (sessionId : Int) (wtErrorCode : Nat) (msg : Bytes)
  deriving DecidableEq

/-- The result of `nghttp3_conn_writev_stream`, the vectors joined. -/
structure Written where
  sveccnt : Int
  streamId : Int := -1
  fin : Bool := false
  data : Bytes := []
  deriving DecidableEq

/-- nghttp3 as an `H3Session` sees it: a connection, and the answer to each call. -/
structure Nghttp3 where
  Conn : Type
  readStream2 : Conn → Int → Bytes → Bool → Conn × List Callback × Int
  closeStream : Conn → Int → Nat → Conn × List StreamCallback
  getStreamWtSessionId : Conn → Int → Int
  submitWtRequest : Conn → Int → HeaderList → Conn × Int
  submitWtResponse : Conn → Int → HeaderList → Conn × Int
  serverConfirmWtSession : Conn → Int → Conn × List Callback × Int
  openWtDataStream : Conn → Int → Int → Conn × Int
  closeWtSession : Conn → Int → Nat → Bytes → Conn × List StreamCallback × Int
  writevStream : Conn → Conn × List WriteCallback × Written
  /-- `nghttp3_conn_add_write_offset` and `nghttp3_conn_add_ack_offset` -/
  addOffset : Conn → Int → Nat → Conn × List WriteCallback
  isStreamFlushed : Conn → Int → Bool
  /-- `NGHTTP3_ERR_H3_MESSAGE_ERROR` -/
  errH3MessageError : Int
  strerror : Int → Bytes

/-- An nghttp3 that takes every call, consumes every byte, fires the given callbacks on each read that
brings bytes and nothing else. -/
def Nghttp3.reading (callbacks : List Callback) : Nghttp3 where
  Conn := Unit
  readStream2 _ _ data _ := ((), if data = [] then [] else callbacks, data.length)
  closeStream _ _ _ := ((), [])
  getStreamWtSessionId _ _ := -1
  submitWtRequest _ _ _ := ((), 0)
  submitWtResponse _ _ _ := ((), 0)
  serverConfirmWtSession _ _ := ((), [], 0)
  openWtDataStream _ _ _ := ((), 0)
  closeWtSession _ _ _ _ := ((), [], 0)
  writevStream _ := ((), [], { sveccnt := 0 })
  addOffset _ _ _ := ((), [])
  isStreamFlushed _ _ := true
  errH3MessageError := -1000
  strerror _ := []

/-- What passes between a session and nghttp3: its calls with their results, and the callbacks. -/
inductive NgCall
  | readStream2 (streamId : Int) (data : Bytes) (fin : Bool) (callbacks : List Callback) (rv : Int)
  | callback (c : Callback)
  | closeStream (streamId : Int) (errorCode : Nat)
  | submitResponse (streamId status : Int) (headers : HeaderList)
  | submitWtRequest (streamId : Int) (headers : HeaderList) (rv : Int)
  | submitWtResponse (streamId : Int) (headers : HeaderList) (rv : Int)
  | serverConfirmWtSession (streamId : Int) (callbacks : List Callback) (rv : Int)
  | openWtDataStream (sessionId streamId : Int) (rv : Int)
  | resumeStream (streamId : Int)
  | shutdownStreamWrite (streamId : Int)
  | closeWtSession (sessionId : Int) (errorCode : Nat) (message : Bytes) (rv : Int)
  | isStreamFlushed (streamId : Int) (answer : Bool)
  deriving DecidableEq

/-! ## State -/

/-- The books of a session object: which sessions there are, which streams belong to them and what
waits to be sent on these, and the header blocks being received. -/
structure Books where
  sessionIds : OrdSet Int := ∅
  acceptedSessionIds : OrdSet Int := ∅
  streamInfo : OrdMap Int StreamInfo := ∅
  streamBuffers : OrdMap Int (List StreamBuffer) := ∅
  pendingHeaders : OrdMap Int HeaderList := ∅
  deriving DecidableEq

/-- `H3Session`; `pushed` and `ngLog` record what was done, with the books at that moment, and are
never read by the code.  `conn_` is set once at creation, so the null checks are left out. -/
structure H3Session (N : Nghttp3) extends Books where
  isServer : Bool
  config : H3SessionConfig
  conn : N.Conn
  events : List H3Event := []
  pendingDatagrams : List Bytes := []
  preAcceptBufferedBytes : OrdMap Int Nat := ∅
  preAcceptStreamSessionIds : OrdMap Int Int := ∅
  rejectedPreAcceptStreamIds : OrdSet Int := ∅
  pendingFinSessionIds : OrdSet Int := ∅
  pendingPreAcceptFinSessionIds : OrdSet Int := ∅
  pendingQpackBlockedFinStreamIds : OrdSet Int := ∅
  headersGuards : OrdMap Int HeadersFrameGuard := ∅
  preAcceptFinAcceptedSessionIds : OrdSet Int := ∅
  pendingStale2xxDiscardSessionIds : OrdSet Int := ∅
  acceptingSessionId : Int := -1
  pendingWtCloseSessionError : Option Int := none
  shutdownStreamIds : OrdSet Int := ∅
  controlStreamId : Int := -1
  qpackEncoderStreamId : Int := -1
  qpackDecoderStreamId : Int := -1
  closed : Bool := false
  settingsReceived : Bool := false
  peerWtEnabled : Bool := false
  peerEnableConnectProtocol : Bool := false
  peerH3Datagram : Bool := false
  pushed : List H3Event := []
  ngLog : List (NgCall × Books) := []

end H3
end WebTransport
