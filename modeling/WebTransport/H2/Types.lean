import Mathlib.Data.Finset.Insert
import Mathlib.Data.Finset.Card
import WebTransport.Data.OrdMap
import WebTransport.Bindings.TextUtil

/-!
# H2.Types — the data model of WebTransport over HTTP/2 (`webtransport_h2.h`)

Configuration, events, streams, sessions and capsules.  Counters and stream ids are natural
numbers: the code keeps every one of them below `2^62`, so no `uint64_t` arithmetic wraps.
Session ids are HTTP/2 stream ids (`int32_t`) and stay integers, because the API accepts
negative ones.
-/

namespace WebTransport
namespace H2

/-! ## Constants -/

/-- `kMaxStreamsLimit` -/
def kMaxStreamsLimit : Nat := 2 ^ 60

/-- `kMaxSettingsValue` -/
def kMaxSettingsValue : Nat := 2 ^ 32 - 1

/-- `kMaxApplicationErrorMessageBytes` -/
def kMaxApplicationErrorMessageBytes : Nat := 1024

/-- `kMaxApplicationErrorCode` -/
def kMaxApplicationErrorCode : Nat := 0xFFFFFFFF

/-- `kMaxReceivedMapEntries` -/
def kMaxReceivedMapEntries : Nat := 4096

/-- `kMinUnfinishedCapsuleBytes` -/
def kMinUnfinishedCapsuleBytes : Nat := 32768

/-- `max_unfinished_capsule_bytes` -/
def maxUnfinishedCapsuleBytes : Nat := max kMinUnfinishedCapsuleBytes 16384

/-- `WtErrorCode` -/
def kWtFlowControlError : Nat := 0x50

@[inherit_doc kWtFlowControlError]
def kWtStreamStateError : Nat := 0x51

@[inherit_doc kWtFlowControlError]
def kWtError : Nat := 0x52

/-- `NGHTTP2_PROTOCOL_ERROR` -/
def protocolError : Nat := 0x01

/-! ## Capsule types -/

/-- `CapsuleType` -/
inductive CapsuleType
  | datagram
  | padding
  | wtResetStream
  | wtStopSending
  | wtStreamFin
  | wtStream
  | wtMaxData
  | wtMaxStreamData
  | wtMaxStreamsBidi
  | wtMaxStreamsUni
  | wtDataBlocked
  | wtStreamDataBlocked
  | wtStreamsBlockedBidi
  | wtStreamsBlockedUni
  | wtCloseSession
  | wtDrainSession
  deriving DecidableEq, Repr

def CapsuleType.toNat : CapsuleType → Nat
  | .datagram => 0x00
  | .padding => 0x190B4D38
  | .wtResetStream => 0x190B4D39
  | .wtStopSending => 0x190B4D3A
  | .wtStreamFin => 0x190B4D3B
  | .wtStream => 0x190B4D3C
  | .wtMaxData => 0x190B4D3D
  | .wtMaxStreamData => 0x190B4D3E
  | .wtMaxStreamsBidi => 0x190B4D3F
  | .wtMaxStreamsUni => 0x190B4D40
  | .wtDataBlocked => 0x190B4D41
  | .wtStreamDataBlocked => 0x190B4D42
  | .wtStreamsBlockedBidi => 0x190B4D43
  | .wtStreamsBlockedUni => 0x190B4D44
  | .wtCloseSession => 0x2843
  | .wtDrainSession => 0x78ae

/-- The `switch` label a received type value selects; an unknown value selects none. -/
def CapsuleType.ofNat? (value : Nat) : Option CapsuleType :=
  [CapsuleType.datagram, .padding, .wtResetStream, .wtStopSending, .wtStreamFin, .wtStream,
    .wtMaxData, .wtMaxStreamData, .wtMaxStreamsBidi, .wtMaxStreamsUni, .wtDataBlocked,
    .wtStreamDataBlocked, .wtStreamsBlockedBidi, .wtStreamsBlockedUni, .wtCloseSession,
    .wtDrainSession].find? fun t => t.toNat = value

@[simp] theorem CapsuleType.ofNat?_toNat (t : CapsuleType) : CapsuleType.ofNat? t.toNat = some t := by
  cases t <;> rfl

theorem CapsuleType.toNat_le (t : CapsuleType) : t.toNat ≤ Bindings.kMaxQuicVarint := by
  cases t <;> decide

/-! ## Configuration -/

/-- `H2SessionConfig`; the fields that only size nghttp2 itself are left out. -/
structure H2SessionConfig where
  initialWindowSize : Nat := 65535
  wtInitialMaxData : Nat := 1048576
  wtInitialMaxStreamData : Nat := 262144
  wtInitialMaxStreamsBidi : Nat := 100
  wtInitialMaxStreamsUni : Nat := 100
  wtPreAcceptBufferLimit : Nat := 65536
  wtMaxCapsulePayloadSize : Nat := 1048576
  allowedOrigins : List Bytes := []
  deriving DecidableEq

/-- The range checks at the head of `H2Session::initialize`. -/
def H2SessionConfig.check (config : H2SessionConfig) : Except String Unit :=
  if config.wtInitialMaxData > kMaxSettingsValue then
    .error ("wt_initial_max_data must be less than 2^32: " ++ toString config.wtInitialMaxData)
  else if config.wtInitialMaxStreamData > kMaxSettingsValue then
    .error ("wt_initial_max_stream_data must be less than 2^32: " ++
      toString config.wtInitialMaxStreamData)
  else if config.wtInitialMaxStreamsBidi > kMaxSettingsValue then
    .error ("wt_initial_max_streams_bidi must be less than 2^32: " ++
      toString config.wtInitialMaxStreamsBidi)
  else if config.wtInitialMaxStreamsUni > kMaxSettingsValue then
    .error ("wt_initial_max_streams_uni must be less than 2^32: " ++
      toString config.wtInitialMaxStreamsUni)
  else if config.initialWindowSize > 2 ^ 31 - 1 then
    .error ("initial_window_size must be less than 2^31: " ++ toString config.initialWindowSize)
  else
    .ok ()

/-- A configuration that `initialize` lets through has all its limits in range. -/
theorem H2SessionConfig.check_ok {config : H2SessionConfig} (h : config.check = .ok ()) :
    config.wtInitialMaxData ≤ kMaxSettingsValue ∧
      config.wtInitialMaxStreamData ≤ kMaxSettingsValue ∧
      config.wtInitialMaxStreamsBidi ≤ kMaxSettingsValue ∧
      config.wtInitialMaxStreamsUni ≤ kMaxSettingsValue := by
  unfold H2SessionConfig.check at h
  split_ifs at h with h1 h2 h3 h4
  exact ⟨not_lt.1 h1, not_lt.1 h2, not_lt.1 h3, not_lt.1 h4⟩

/-! ## Events -/

/-- `H2EventType` -/
inductive H2EventType
  | sessionReady
  | sessionClosed
  | sessionDraining
  | streamData
  | streamReset
  | stopSending
  | datagram
  | error
  | sessionRejected
  | goAway
  deriving DecidableEq, Repr

abbrev HeaderList := List (Bytes × Bytes)

/-- `H2Event` -/
structure H2Event where
  type : H2EventType
  sessionId : Int := -1
  streamId : Nat := 0
  data : Bytes := []
  errorCode : Nat := 0
  errorMessage : Bytes := []
  fin : Bool := false
  statusCode : Nat := 0
  headers : HeaderList := []
  lastStreamId : Int := 0
  deriving DecidableEq

/-! ## Streams -/

/-- `StreamState` -/
inductive StreamState
  | ready
  | dataSent
  | resetSent
  | recv
  | dataRecvd
  | resetRecvd
  deriving DecidableEq, Repr

/-- The sending half has queued its FIN or its reset. -/
def StreamState.sendDone (s : StreamState) : Bool :=
  s = .dataSent || s = .resetSent

/-- The receiving half has seen a FIN or a reset. -/
def StreamState.recvDone (s : StreamState) : Bool :=
  s = .dataRecvd || s = .resetRecvd

/-- `WtStreamInfo::PendingSend` -/
structure PendingSend where
  data : Bytes
  fin : Bool := false
  deriving DecidableEq

/-- `WtStreamInfo` -/
structure WtStreamInfo where
  streamId : Nat
  isLocal : Bool
  isUnidirectional : Bool
  sendState : StreamState := .ready
  bytesSent : Nat := 0
  maxStreamDataLocal : Nat := 0
  recvState : StreamState := .recv
  bytesReceived : Nat := 0
  maxStreamDataRemote : Nat := 0
  pendingSends : List PendingSend := []
  streamDataBlockedSent : Bool := false
  stopSendingReceived : Bool := false
  deriving DecidableEq

/-! ## Sessions -/

/-- `WtSessionInfo` -/
structure WtSessionInfo where
  http2StreamId : Int
  isEstablished : Bool := false
  isTerminated : Bool := false
  preAcceptEndStream : Bool := false
  bytesSent : Nat := 0
  maxDataLocal : Nat := 0
  receivedMaxData : Option Nat := none
  bytesReceived : Nat := 0
  maxDataRemote : Nat := 0
  nextBidiStreamId : Nat := 0
  nextUniStreamId : Nat := 0
  maxStreamsBidiLocal : Nat := 0
  maxStreamsUniLocal : Nat := 0
  receivedMaxStreamsBidi : Option Nat := none
  receivedMaxStreamsUni : Option Nat := none
  maxStreamsBidiRemote : Nat := 0
  maxStreamsUniRemote : Nat := 0
  streamsBidiOpened : Nat := 0
  streamsUniOpened : Nat := 0
  streams : OrdMap Nat WtStreamInfo := ∅
  capsuleBuffer : Bytes := []
  peerMaxStreamDataUni : Nat := 0
  peerMaxStreamDataBidiLocal : Nat := 0
  peerMaxStreamDataBidiRemote : Nat := 0
  receivedInitialMaxStreamDataUni : Option Nat := none
  receivedInitialMaxStreamDataBidiLocal : Option Nat := none
  receivedInitialMaxStreamDataBidiRemote : Option Nat := none
  receivedMaxStreamDataById : OrdMap Nat Nat := ∅
  receivedStopSendingStreamIds : Finset Nat := ∅
  sentStopSendingStreamIds : Finset Nat := ∅
  releasedStreamIds : Finset Nat := ∅
  dataBlockedSent : Bool := false
  streamsBlockedBidiSent : Bool := false
  streamsBlockedUniSent : Bool := false
  deriving DecidableEq

/-! ## Stream ids -/

/-- Bit 1 of a stream id: unidirectional. -/
def isUniId (streamId : Nat) : Bool := streamId / 2 % 2 = 1

/-- Bit 0 of a stream id: opened by the server. -/
def isServerId (streamId : Nat) : Bool := streamId % 2 = 1

/-- `is_receivable_data_capsule` -/
def isReceivableDataCapsule (streamId : Nat) (isServer : Bool) : Bool :=
  if isUniId streamId = false then true
  else !(isServerId streamId == isServer)

/-- `is_receivable_flow_capsule` -/
def isReceivableFlowCapsule (streamId : Nat) (isServer : Bool) : Bool :=
  if isUniId streamId = false then true
  else isServerId streamId == isServer

/-- `is_sendable_stream` -/
def isSendableStream (isLocal isUnidirectional : Bool) : Bool :=
  !(!isLocal && isUnidirectional)

/-- `build_stream_id`: the counter sits above the direction and initiator bits. -/
def buildStreamId (isServer isUnidirectional : Bool) (counter : Nat) : Nat :=
  counter * 4 + (if isUnidirectional then 2 else 0) + (if isServer then 1 else 0)

theorem buildStreamId_div (isServer isUni : Bool) (counter : Nat) :
    buildStreamId isServer isUni counter / 4 = counter := by
  cases isServer <;> cases isUni <;> simp [buildStreamId] <;> omega

theorem isUniId_buildStreamId (isServer isUni : Bool) (counter : Nat) :
    isUniId (buildStreamId isServer isUni counter) = isUni := by
  cases isServer <;> cases isUni <;> simp [buildStreamId, isUniId] <;> omega

theorem isServerId_buildStreamId (isServer isUni : Bool) (counter : Nat) :
    isServerId (buildStreamId isServer isUni counter) = isServer := by
  cases isServer <;> cases isUni <;> simp [buildStreamId, isServerId] <;> omega

/-! ## Outgoing capsules -/

/-- A capsule handed to `send_capsule`, before its fields are serialised. -/
inductive Capsule
  | datagram (data : Bytes)
  | wtResetStream (streamId errorCode reliableSize : Nat)
  | wtStopSending (streamId errorCode : Nat)
  | wtStream (fin : Bool) (streamId : Nat) (data : Bytes)
  | wtMaxData (maxData : Nat)
  | wtMaxStreamData (streamId maxData : Nat)
  | wtMaxStreamsBidi (maxStreams : Nat)
  | wtMaxStreamsUni (maxStreams : Nat)
  | wtDataBlocked (limit : Nat)
  | wtStreamDataBlocked (streamId limit : Nat)
  | wtStreamsBlockedBidi (limit : Nat)
  | wtStreamsBlockedUni (limit : Nat)
  | wtCloseSession (errorCode : Nat) (message : Bytes)
  | wtDrainSession
  deriving DecidableEq

namespace Capsule

open Bindings

def type : Capsule → CapsuleType
  | .datagram _ => .datagram
  | .wtResetStream .. => .wtResetStream
  | .wtStopSending .. => .wtStopSending
  | .wtStream fin _ _ => if fin then .wtStreamFin else .wtStream
  | .wtMaxData _ => .wtMaxData
  | .wtMaxStreamData .. => .wtMaxStreamData
  | .wtMaxStreamsBidi _ => .wtMaxStreamsBidi
  | .wtMaxStreamsUni _ => .wtMaxStreamsUni
  | .wtDataBlocked _ => .wtDataBlocked
  | .wtStreamDataBlocked .. => .wtStreamDataBlocked
  | .wtStreamsBlockedBidi _ => .wtStreamsBlockedBidi
  | .wtStreamsBlockedUni _ => .wtStreamsBlockedUni
  | .wtCloseSession .. => .wtCloseSession
  | .wtDrainSession => .wtDrainSession

/-- The four big-endian bytes of the Application Error Code. -/
def errorCodeBytes (errorCode : Nat) : Bytes :=
  [UInt8.ofNat (errorCode / 2 ^ 24), UInt8.ofNat (errorCode / 2 ^ 16),
    UInt8.ofNat (errorCode / 2 ^ 8), UInt8.ofNat errorCode]

/-- The payload bytes; the varint fields are those of `varintFields`. -/
def payload : Capsule → Bytes
  | .datagram data => data
  | .wtResetStream streamId errorCode reliableSize =>
      varintBytes streamId ++ varintBytes errorCode ++ varintBytes reliableSize
  | .wtStopSending streamId errorCode => varintBytes streamId ++ varintBytes errorCode
  | .wtStream _ streamId data => varintBytes streamId ++ data
  | .wtMaxData maxData => varintBytes maxData
  | .wtMaxStreamData streamId maxData => varintBytes streamId ++ varintBytes maxData
  | .wtMaxStreamsBidi maxStreams => varintBytes maxStreams
  | .wtMaxStreamsUni maxStreams => varintBytes maxStreams
  | .wtDataBlocked limit => varintBytes limit
  | .wtStreamDataBlocked streamId limit => varintBytes streamId ++ varintBytes limit
  | .wtStreamsBlockedBidi limit => varintBytes limit
  | .wtStreamsBlockedUni limit => varintBytes limit
  | .wtCloseSession errorCode message => errorCodeBytes errorCode ++ message
  | .wtDrainSession => []

/-- Every value the construction of the capsule passes to `encode_quic_varint`. -/
def varintFields : Capsule → List Nat
  | .datagram _ => []
  | .wtResetStream streamId errorCode reliableSize => [streamId, errorCode, reliableSize]
  | .wtStopSending streamId errorCode => [streamId, errorCode]
  | .wtStream _ streamId _ => [streamId]
  | .wtMaxData maxData => [maxData]
  | .wtMaxStreamData streamId maxData => [streamId, maxData]
  | .wtMaxStreamsBidi maxStreams => [maxStreams]
  | .wtMaxStreamsUni maxStreams => [maxStreams]
  | .wtDataBlocked limit => [limit]
  | .wtStreamDataBlocked streamId limit => [streamId, limit]
  | .wtStreamsBlockedBidi limit => [limit]
  | .wtStreamsBlockedUni limit => [limit]
  | .wtCloseSession .. => []
  | .wtDrainSession => []

end Capsule

/-- `encode_capsule`, for a type value and payload whose length both fit a varint. -/
def encodeCapsule (type : Nat) (payload : Bytes) : Bytes :=
  Bindings.varintBytes type ++ Bindings.varintBytes payload.length ++ payload

end H2
end WebTransport
