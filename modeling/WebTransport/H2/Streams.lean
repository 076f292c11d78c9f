import Mathlib.Tactic.Simps.Basic
import WebTransport.H2.Types

/-!
# H2.Streams — stream operations of one session (`webtransport_h2.cpp`)

The methods of `H2Session` that read and write a single `WtSessionInfo` and hand capsules to
`send_capsule`.  Each is a function from the session entry to the new entry and the capsules
queued, in order.  `SessionScope` (`H2.Capsules`) runs them on the entry of a session id.
-/

namespace WebTransport
namespace H2

open Bindings

/-- A session entry together with the capsules an operation queued. -/
abbrev Queued := WtSessionInfo × List Capsule

namespace Queued

/-- Run a second operation on the entry and queue its capsules behind the first ones. -/
def andThen (q : Queued) (f : WtSessionInfo → Queued) : Queued :=
  ((f q.1).1, q.2 ++ (f q.1).2)

@[simp] theorem andThen_fst (q : Queued) (f : WtSessionInfo → Queued) :
    (q.andThen f).1 = (f q.1).1 := rfl

@[simp] theorem andThen_snd (q : Queued) (f : WtSessionInfo → Queued) :
    (q.andThen f).2 = q.2 ++ (f q.1).2 := rfl

end Queued

namespace WtSessionInfo

/-- Write back a stream entry (the source holds a reference into `streams`). -/
@[simps]
def setStream (w : WtSessionInfo) (streamId : Nat) (info : WtStreamInfo) : WtSessionInfo :=
  { w with streams := w.streams.insert streamId info }

theorem find?_setStream (w : WtSessionInfo) (streamId streamId' : Nat) (info : WtStreamInfo) :
    (w.setStream streamId info).streams.find? streamId' =
      if streamId' = streamId then some info else w.streams.find? streamId' :=
  OrdMap.find?_insert _ _ _ _

@[simp] theorem find?_setStream_self (w : WtSessionInfo) (streamId : Nat) (info : WtStreamInfo) :
    (w.setStream streamId info).streams.find? streamId = some info :=
  OrdMap.find?_insert_self _ _ _

@[simp] theorem setStream_setStream (w : WtSessionInfo) (streamId : Nat)
    (info info' : WtStreamInfo) :
    (w.setStream streamId info).setStream streamId info' = w.setStream streamId info' := by
  simp only [setStream, OrdMap.insert_insert]

theorem setStream_of_find? {w : WtSessionInfo} {streamId : Nat} {info : WtStreamInfo}
    (h : w.streams.find? streamId = some info) : w.setStream streamId info = w := by
  simp only [setStream, OrdMap.insert_of_find? h]

/-! ## Limits and credit -/

/-- `incoming_stream_exceeds_limit` -/
def incomingStreamExceedsLimit (w : WtSessionInfo) (streamId : Nat) : Bool :=
  let maxStreams := if isUniId streamId then w.maxStreamsUniRemote else w.maxStreamsBidiRemote
  streamId / 4 + 1 > maxStreams

/-- `has_received_stop_sending` -/
def hasReceivedStopSending (w : WtSessionInfo) (streamId : Nat) : Bool :=
  if streamId ∈ w.receivedStopSendingStreamIds then true
  else
    match w.streams.find? streamId with
    | none => false
    | some info => info.stopSendingReceived

/-- `peer_send_credit_for_stream` -/
def peerSendCreditForStream (w : WtSessionInfo) (isUnidirectional isLocal : Bool) : Nat :=
  if isUnidirectional then w.peerMaxStreamDataUni
  else if isLocal then w.peerMaxStreamDataBidiLocal
  else w.peerMaxStreamDataBidiRemote

/-- `advertised_stream_send_credit` -/
def advertisedStreamSendCredit (w : WtSessionInfo) (isUnidirectional isLocal : Bool) :
    Option Nat :=
  if isUnidirectional then w.receivedInitialMaxStreamDataUni
  else if isLocal then w.receivedInitialMaxStreamDataBidiLocal
  else w.receivedInitialMaxStreamDataBidiRemote

/-- `initialize_stream_send_credit` -/
def initializeStreamSendCredit (w : WtSessionInfo) (info : WtStreamInfo) : WtStreamInfo :=
  let credit := w.peerSendCreditForStream info.isUnidirectional info.isLocal
  match w.receivedMaxStreamDataById.find? info.streamId with
  | none => { info with maxStreamDataLocal := credit }
  | some received =>
      { info with maxStreamDataLocal := if received > credit then received else credit }

/-- The fresh `WtStreamInfo` that `open_stream` and the implicit creation in `handle_wt_stream`
and `handle_wt_reset_stream` build. -/
def newStream (w : WtSessionInfo) (config : H2SessionConfig) (streamId : Nat)
    (isLocal isUnidirectional : Bool) : WtStreamInfo :=
  { w.initializeStreamSendCredit
      { streamId := streamId, isLocal := isLocal, isUnidirectional := isUnidirectional } with
    maxStreamDataRemote := config.wtInitialMaxStreamData }

/-- The implicit creation derives the initiator and the direction from the id. -/
def newPeerStream (w : WtSessionInfo) (config : H2SessionConfig) (isServer : Bool)
    (streamId : Nat) : WtStreamInfo :=
  w.newStream config streamId (isServerId streamId == isServer) (isUniId streamId)

/-- The credit left of `limit` after `sent` bytes, cut to `size`: the overflow-safe computation
that `send_stream_data` and `flush_pending_sends` make for the session and for the stream. -/
def availableCredit (sent limit size : Nat) : Nat :=
  if sent ≤ limit then
    let remaining := limit - sent
    if remaining > size then size else remaining
  else 0

/-- How much of `size` bytes both the session and the stream credit admit. -/
def sendableBytes (sessionAvail streamAvail : Nat) : Nat :=
  if sessionAvail < streamAvail then sessionAvail else streamAvail

/-! ## Replenishing the credit given to the peer -/

/-- The new advertised value: one initial window above what was received, clamped to what a
varint can carry.  The first disjunct is the source's guard against `uint64_t` wrap-around. -/
def replenishedLimit (bytesReceived initial : Nat) : Nat :=
  let updated := bytesReceived + initial
  if updated < bytesReceived ∨ updated > kMaxQuicVarint then kMaxQuicVarint else updated

/-- `maybe_send_max_data` -/
def maybeSendMaxData (config : H2SessionConfig) (w : WtSessionInfo) : Queued :=
  if w.isTerminated then (w, [])
  else if config.wtInitialMaxData = 0 then (w, [])
  else if w.bytesReceived ≤ w.maxDataRemote / 2 then (w, [])
  else
    let updated := replenishedLimit w.bytesReceived config.wtInitialMaxData
    if updated ≤ w.maxDataRemote then (w, [])
    else ({ w with maxDataRemote := updated }, [.wtMaxData updated])

/-- `maybe_send_max_stream_data` -/
def maybeSendMaxStreamData (config : H2SessionConfig) (streamId : Nat) (w : WtSessionInfo) :
    Queued :=
  if w.isTerminated then (w, [])
  else if streamId ∈ w.sentStopSendingStreamIds then (w, [])
  else
    match w.streams.find? streamId with
    | none => (w, [])
    | some info =>
        if config.wtInitialMaxStreamData = 0 then (w, [])
        else if info.bytesReceived ≤ info.maxStreamDataRemote / 2 then (w, [])
        else
          let updated := replenishedLimit info.bytesReceived config.wtInitialMaxStreamData
          if updated ≤ info.maxStreamDataRemote then (w, [])
          else
            (w.setStream streamId { info with maxStreamDataRemote := updated },
              [.wtMaxStreamData streamId updated])

/-! ## Releasing finished streams -/

/-- The `releasable` computation of `maybe_release_stream`. -/
def releasable (info : WtStreamInfo) : Bool :=
  let sendDone := info.sendState.sendDone
  let recvDone := info.recvState.recvDone
  if info.isUnidirectional then
    if info.isLocal then sendDone else recvDone
  else sendDone && recvDone

/-- Raise the advertised stream count by one after a peer-initiated stream was released. -/
def replenishStreams (isUni : Bool) (w : WtSessionInfo) : Queued :=
  if isUni then
    if w.maxStreamsUniRemote < kMaxStreamsLimit then
      ({ w with maxStreamsUniRemote := w.maxStreamsUniRemote + 1 },
        [.wtMaxStreamsUni (w.maxStreamsUniRemote + 1)])
    else (w, [])
  else
    if w.maxStreamsBidiRemote < kMaxStreamsLimit then
      ({ w with maxStreamsBidiRemote := w.maxStreamsBidiRemote + 1 },
        [.wtMaxStreamsBidi (w.maxStreamsBidiRemote + 1)])
    else (w, [])

/-- The bookkeeping of `maybe_release_stream`: record the id and erase the entry.  A stream only
this side sends on is refused by its direction, so it is not recorded. -/
def dropStream (w : WtSessionInfo) (streamId : Nat) (info : WtStreamInfo) : WtSessionInfo :=
  { w with
    releasedStreamIds :=
      if !(info.isLocal && info.isUnidirectional) ∧
          w.releasedStreamIds.card < kMaxReceivedMapEntries then
        insert streamId w.releasedStreamIds
      else w.releasedStreamIds
    streams := w.streams.erase streamId }

/-- `maybe_release_stream` -/
def maybeReleaseStream (streamId : Nat) (w : WtSessionInfo) : Queued :=
  match w.streams.find? streamId with
  | none => (w, [])
  | some info =>
      if releasable info then
        if info.isLocal then (w.dropStream streamId info, [])
        else (w.dropStream streamId info).replenishStreams info.isUnidirectional
      else (w, [])

/-! ## Taking in stream data -/

/-- The FIN branch at the end of `handle_wt_stream`. -/
def finishRecv (streamId : Nat) (w : WtSessionInfo) : Queued :=
  match w.streams.find? streamId with
  | none => (w, [])
  | some info =>
      (w.setStream streamId { info with recvState := .dataRecvd }).maybeReleaseStream streamId

/-- The session entry with `size` more bytes received on a stream. -/
def countReceived (w : WtSessionInfo) (streamId : Nat) (info : WtStreamInfo) (size : Nat) :
    WtSessionInfo :=
  { w with bytesReceived := w.bytesReceived + size }.setStream streamId
    { info with bytesReceived := info.bytesReceived + size }

/-- `handle_wt_stream` behind its checks and its event: count, replenish, finish. -/
def acceptStreamData (config : H2SessionConfig) (streamId : Nat) (info : WtStreamInfo) (fin : Bool)
    (size : Nat) (w : WtSessionInfo) : Queued :=
  let replenished := ((w.countReceived streamId info size).maybeSendMaxData config).andThen
    (maybeSendMaxStreamData config streamId)
  if fin then replenished.andThen (finishRecv streamId) else replenished

/-! ## Sending what flow control held back -/

/-- What the inner `while` loop of `flush_pending_sends` leaves behind for one stream. -/
structure FlushLoop where
  pending : List PendingSend
  sessionSent : Nat
  streamSent : Nat
  capsules : List Capsule
  finSent : Bool

/-- The inner `while` loop of `flush_pending_sends`: send from the front of the queue while both
credits last, split the entry the credit cuts through, stop behind a FIN. -/
def flushLoop (streamId sessionLimit streamLimit : Nat) :
    List PendingSend → Nat → Nat → FlushLoop
  | [], sessionSent, streamSent => ⟨[], sessionSent, streamSent, [], false⟩
  | pending :: rest, sessionSent, streamSent =>
      let size := pending.data.length
      let sendable := sendableBytes (availableCredit sessionSent sessionLimit size)
        (availableCredit streamSent streamLimit size)
      if sendable = 0 then ⟨pending :: rest, sessionSent, streamSent, [], false⟩
      else if sendable < size then
        -- The FIN stays with the remainder.
        ⟨{ pending with data := pending.data.drop sendable } :: rest, sessionSent + sendable,
          streamSent + sendable, [.wtStream false streamId (pending.data.take sendable)], false⟩
      else
        let capsule := Capsule.wtStream pending.fin streamId pending.data
        if pending.fin then
          ⟨rest, sessionSent + sendable, streamSent + sendable, [capsule], true⟩
        else
          let loop := flushLoop streamId sessionLimit streamLimit rest
            (sessionSent + sendable) (streamSent + sendable)
          { loop with capsules := capsule :: loop.capsules }

/-- The stream entry behind the inner loop. -/
def FlushLoop.info (loop : FlushLoop) (info : WtStreamInfo) : WtStreamInfo :=
  { info with
    pendingSends := loop.pending
    bytesSent := loop.streamSent
    sendState :=
      if loop.finSent ∧ info.sendState = .ready then StreamState.dataSent else info.sendState }

/-- Write the counters and the queue of the inner loop back. -/
def afterFlush (w : WtSessionInfo) (streamId : Nat) (info : WtStreamInfo) (loop : FlushLoop) :
    WtSessionInfo :=
  { w with bytesSent := loop.sessionSent }.setStream streamId (loop.info info)

/-- The inner loop on the entry of a stream. -/
def runFlushLoop (w : WtSessionInfo) (streamId : Nat) (info : WtStreamInfo) : FlushLoop :=
  flushLoop streamId w.maxDataLocal info.maxStreamDataLocal info.pendingSends w.bytesSent
    info.bytesSent

/-- The body of the walk of `flush_pending_sends` for one stream id. -/
def flushStream (streamId : Nat) (w : WtSessionInfo) : Queued :=
  match w.streams.find? streamId with
  | none => (w, [])
  | some info =>
      if info.sendState.sendDone then
        (w.setStream streamId { info with pendingSends := [] }, [])
      else
        let loop := w.runFlushLoop streamId info
        let flushed : Queued := (w.afterFlush streamId info loop, loop.capsules)
        if loop.finSent then flushed.andThen (maybeReleaseStream streamId) else flushed

/-- One walk over the stream ids copied from the map. -/
def flushWalk : List Nat → WtSessionInfo → Queued
  | [], w => (w, [])
  | streamId :: rest, w => Queued.andThen (flushStream streamId w) (flushWalk rest)

/-- The outer `for (;;)` loop, one walk a round until a round makes no progress.  A walk queues
nothing but stream data and the limits raised by a release, and every release follows a FIN, so
`progressed` is set exactly when the walk queued something. -/
def flushRounds : Nat → WtSessionInfo → Queued
  | 0, w => (w, [])
  | fuel + 1, w =>
      let walked := flushWalk w.streams.keys w
      if walked.2 = [] then walked
      else Queued.andThen walked (flushRounds fuel)

/-- The number of bytes in the send queues of all streams. -/
def pendingBytes (w : WtSessionInfo) : Nat :=
  (w.streams.entries.map fun e => (e.2.pendingSends.map fun p => p.data.length).sum).sum

/-- `flush_pending_sends`.  Every round but the last sends at least one byte of the queues, so
their size bounds the number of rounds. -/
def flushPendingSends (w : WtSessionInfo) : Queued :=
  if w.isTerminated then (w, [])
  else flushRounds (w.pendingBytes + 1) w

/-! ## Taking in the peer's limits -/

/-- `handle_wt_max_data` raises the session's credit. -/
def raiseMaxData (w : WtSessionInfo) (maxData : Nat) : WtSessionInfo :=
  { w with maxDataLocal := maxData, dataBlockedSent := false }

/-- `handle_wt_max_stream_data` remembers the value, for a bounded number of stream ids. -/
def recordMaxStreamData (w : WtSessionInfo) (streamId maxData : Nat) : WtSessionInfo :=
  { w with
    receivedMaxStreamDataById :=
      if (w.receivedMaxStreamDataById.find? streamId).isSome ∨
          w.receivedMaxStreamDataById.size < kMaxReceivedMapEntries then
        w.receivedMaxStreamDataById.insert streamId maxData
      else w.receivedMaxStreamDataById }

/-- `handle_wt_max_stream_data` raises the stream's credit. -/
def raiseMaxStreamData (w : WtSessionInfo) (streamId : Nat) (info : WtStreamInfo) (maxData : Nat) :
    WtSessionInfo :=
  w.setStream streamId
    { info with maxStreamDataLocal := maxData, streamDataBlockedSent := false }

/-- `handle_wt_stop_sending` remembers the stream id, up to a bound. -/
def recordStopSending (w : WtSessionInfo) (streamId : Nat) : WtSessionInfo :=
  { w with
    receivedStopSendingStreamIds :=
      if w.receivedStopSendingStreamIds.card < kMaxReceivedMapEntries then
        insert streamId w.receivedStopSendingStreamIds
      else w.receivedStopSendingStreamIds }

/-! ## The sending half of the API -/

/-- `allocate_stream_id`, as far as it changes the counters. -/
def allocateStreamId (isUnidirectional : Bool) (w : WtSessionInfo) : WtSessionInfo :=
  if isUnidirectional then
    { w with nextUniStreamId := w.nextUniStreamId + 1,
             streamsUniOpened := w.streamsUniOpened + 1 }
  else
    { w with nextBidiStreamId := w.nextBidiStreamId + 1,
             streamsBidiOpened := w.streamsBidiOpened + 1 }

/-- `open_stream`: the result is the stream id, or `-1`. -/
def openStream (config : H2SessionConfig) (isServer isUnidirectional : Bool)
    (w : WtSessionInfo) : Queued × Int :=
  if !w.isEstablished then ((w, []), -1)
  else if isUnidirectional ∧ w.streamsUniOpened ≥ w.maxStreamsUniLocal then
    if !w.streamsBlockedUniSent then
      (({ w with streamsBlockedUniSent := true }, [.wtStreamsBlockedUni w.maxStreamsUniLocal]), -1)
    else ((w, []), -1)
  else if !isUnidirectional ∧ w.streamsBidiOpened ≥ w.maxStreamsBidiLocal then
    if !w.streamsBlockedBidiSent then
      (({ w with streamsBlockedBidiSent := true },
        [.wtStreamsBlockedBidi w.maxStreamsBidiLocal]), -1)
    else ((w, []), -1)
  else
    let nextCounter := if isUnidirectional then w.nextUniStreamId else w.nextBidiStreamId
    let streamId := buildStreamId isServer isUnidirectional nextCounter
    if (w.streams.find? streamId).isSome then ((w, []), -1)
    else
      let w := w.allocateStreamId isUnidirectional
      ((w.setStream streamId (w.newStream config streamId true isUnidirectional), []), streamId)

/-- The blocked branch of `send_stream_data`: send the prefix the credit admits, announce the
exhausted limits once, and queue the rest. -/
def sendBlocked (w : WtSessionInfo) (info : WtStreamInfo) (streamId : Nat) (data : Bytes)
    (fin : Bool) (sessionAvail streamAvail : Nat) : Queued :=
  let sendable := sendableBytes sessionAvail streamAvail
  let sent : List Capsule :=
    if sendable > 0 then [.wtStream false streamId (data.take sendable)] else []
  let sessionExceeded := sendable < data.length ∧ sessionAvail ≤ streamAvail
  let streamExceeded := sendable < data.length ∧ streamAvail ≤ sessionAvail
  let sessionBlocked : List Capsule :=
    if sessionExceeded ∧ !w.dataBlockedSent then [.wtDataBlocked w.maxDataLocal] else []
  let streamBlocked : List Capsule :=
    if streamExceeded ∧ !info.streamDataBlockedSent then
      [.wtStreamDataBlocked streamId info.maxStreamDataLocal]
    else []
  let info :=
    { info with
      bytesSent := info.bytesSent + sendable
      streamDataBlockedSent := info.streamDataBlockedSent || decide streamExceeded
      pendingSends := info.pendingSends ++ [⟨data.drop sendable, fin⟩] }
  ({ w with
      bytesSent := w.bytesSent + sendable
      dataBlockedSent := w.dataBlockedSent || decide sessionExceeded }.setStream streamId info,
    sent ++ sessionBlocked ++ streamBlocked)

/-- The unblocked branch of `send_stream_data`: everything goes out in one capsule. -/
def sendWhole (w : WtSessionInfo) (info : WtStreamInfo) (streamId : Nat) (data : Bytes)
    (fin : Bool) : Queued :=
  let info :=
    { info with
      bytesSent := info.bytesSent + data.length
      sendState := if fin then .dataSent else info.sendState }
  let sent : Queued :=
    ({ w with bytesSent := w.bytesSent + data.length }.setStream streamId info,
      [.wtStream fin streamId data])
  if fin then sent.andThen (maybeReleaseStream streamId) else sent

/-- `send_stream_data` -/
def sendStreamData (streamId : Nat) (data : Bytes) (fin : Bool) (w : WtSessionInfo) : Queued :=
  if w.isTerminated then (w, [])
  else
    match w.streams.find? streamId with
    | none => (w, [])
    | some info =>
        if !isSendableStream info.isLocal info.isUnidirectional then (w, [])
        else if info.sendState = .resetSent ∨ info.sendState = .dataSent then (w, [])
        else
          match info.pendingSends.getLast? with
          | some last =>
              -- Data behind a queued FIN is ignored, other data keeps its place in the queue.
              if last.fin then (w, [])
              else
                (w.setStream streamId
                  { info with pendingSends := info.pendingSends ++ [⟨data, fin⟩] }, [])
          | none =>
              let sessionAvail := availableCredit w.bytesSent w.maxDataLocal data.length
              let streamAvail :=
                availableCredit info.bytesSent info.maxStreamDataLocal data.length
              if sendableBytes sessionAvail streamAvail < data.length then
                w.sendBlocked info streamId data fin sessionAvail streamAvail
              else w.sendWhole info streamId data fin

/-- The body of `reset_stream`, behind the check of the stream id. -/
def resetStream (streamId errorCode : Nat) (w : WtSessionInfo) : Queued :=
  if w.isTerminated then (w, [])
  else
    match w.streams.find? streamId with
    | none => (w, [])
    | some info =>
        if info.sendState = .resetSent ∨ info.sendState = .dataSent then (w, [])
        else
          let reset : Queued :=
            (w.setStream streamId { info with sendState := .resetSent, pendingSends := [] },
              [.wtResetStream streamId errorCode info.bytesSent])
          reset.andThen (maybeReleaseStream streamId)

/-- The body of `stop_sending`, behind the check of the stream id. -/
def stopSending (streamId errorCode : Nat) (w : WtSessionInfo) : Queued :=
  if w.isTerminated then (w, [])
  else if (w.streams.find? streamId).isNone then (w, [])
  else if streamId ∈ w.sentStopSendingStreamIds then (w, [])
  else
    ({ w with sentStopSendingStreamIds := insert streamId w.sentStopSendingStreamIds },
      [.wtStopSending streamId errorCode])

/-- `send_datagram` -/
def sendDatagram (data : Bytes) (w : WtSessionInfo) : Queued :=
  if w.isTerminated then (w, [])
  else if w.preAcceptEndStream then (w, [])
  else (w, [.datagram data])

/-- `drain_session` -/
def drainSession (w : WtSessionInfo) : Queued :=
  if w.isTerminated then (w, [])
  else if w.preAcceptEndStream then (w, [])
  else (w, [.wtDrainSession])

end WtSessionInfo

end H2
end WebTransport
