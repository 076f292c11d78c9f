import WebTransport.Data.Path
import WebTransport.H2.Received

/-!
# H2.Transitions — what an operation can do to a session entry

The operations of `H2.Streams` and the verdicts of `H2.Received` are loops and branches over a
small number of changes to the entry.  `Trans` lists these changes, each with its guard and with the
label an observer sees: data taken from the application, a capsule queued, a capsule received.

Every operation is a path of such changes:

* `flushPendingSends_emits`, `resetStream_emits`, `stopSending_emits`, `openStream_emits`,
  `sendDatagram_emits`, `drainSession_emits` : the operations that only queue capsules;
* `sendStreamData_path` : sending, which takes data in first;
* `judge_answers` : an accepted capsule.

Everything said later about a session along a run is proved once for each constructor of `Trans`.
-/

namespace WebTransport
namespace H2

open Bindings

/-- What an observer of a session entry sees of a change. -/
inductive Label
  /-- `send_stream_data` took data in -/
  | accepted (streamId : Nat) (data : Bytes) (fin : Bool)
  | sent (c : Capsule)
  /-- a capsule taken in, with the events pushed for it -/
  | received (r : Received) (events : List H2Event)
  | internal
  deriving DecidableEq

namespace Label

/-- The capsules queued along a list of labels. -/
def sentOf (ls : List Label) : List Capsule :=
  ls.filterMap fun
    | .sent c => some c
    | _ => none

/-- The capsules received along a list of labels. -/
def receivedOf (ls : List Label) : List Received :=
  ls.filterMap fun
    | .received r _ => some r
    | _ => none

/-- The events pushed along a list of labels. -/
def eventsOf (ls : List Label) : List H2Event :=
  ls.flatMap fun
    | .received _ events => events
    | _ => []

/-- The `send_stream_data` calls whose data was taken in. -/
def acceptedOf (ls : List Label) : List (Nat × Bytes × Bool) :=
  ls.filterMap fun
    | .accepted streamId data fin => some (streamId, data, fin)
    | _ => none

@[simp] theorem sentOf_append (ls ls' : List Label) :
    sentOf (ls ++ ls') = sentOf ls ++ sentOf ls' :=
  List.filterMap_append

@[simp] theorem receivedOf_append (ls ls' : List Label) :
    receivedOf (ls ++ ls') = receivedOf ls ++ receivedOf ls' := List.filterMap_append

@[simp] theorem eventsOf_append (ls ls' : List Label) :
    eventsOf (ls ++ ls') = eventsOf ls ++ eventsOf ls' := List.flatMap_append

/-- Events come with received capsules only. -/
theorem eventsOf_eq_nil {ls : List Label} (h : receivedOf ls = []) : eventsOf ls = [] := by
  induction ls with
  | nil => rfl
  | cons l ls ih =>
      cases l with
      | received r events => cases h
      | accepted streamId data fin => exact ih h
      | sent c => exact ih h
      | internal => exact ih h

@[simp] theorem acceptedOf_append (ls ls' : List Label) :
    acceptedOf (ls ++ ls') = acceptedOf ls ++ acceptedOf ls' := List.filterMap_append

end Label

/-- Where a run is restricted further than the code restricts it: which streams may be reset and
stopped, which entries may be created in a given state, and on which streams an empty WT_STREAM_FIN
may come behind the end. -/
structure Permits where
  reset : Nat → Prop
  stop : Nat → Prop
  create : WtSessionInfo → Nat → Prop
  lateFin : Nat → Prop

/-- The runs of the code. -/
def Permits.all : Permits where
  reset _ := True
  stop _ := True
  create _ _ := True
  lateFin _ := True

namespace Received

/-- The stream a capsule of the sending side speaks about. -/
def dataStream : Received → Option Nat
  | .stream _ streamId _ => some streamId
  | .resetStream streamId _ _ => some streamId
  | _ => none

/-- The events of a capsule that leaves the entry as it is. -/
def quietEvents : Received → List H2Event
  | .datagram data => [{ type := .datagram, data := data }]
  | .drainSession => [{ type := .sessionDraining }]
  | _ => []

end Received

/-- The capsule finds no stream under its id, and may create one. -/
def Received.Creates (r : Received) (w : WtSessionInfo) (streamId : Nat) : Prop :=
  r.dataStream = some streamId ∧ w.streams.find? streamId = none ∧ streamId ∉ w.releasedStreamIds

/-- The restrictions let the capsule through. -/
structure Permits.Admits (permits : Permits) (isServer : Bool) (w : WtSessionInfo) (r : Received) :
    Prop where
  reset : ∀ streamId errorCode, r = .stopSending streamId errorCode →
    isReceivableFlowCapsule streamId isServer = true → permits.reset streamId
  create : ∀ streamId, r.dataStream = some streamId → w.streams.find? streamId = none →
    streamId ∉ w.releasedStreamIds → permits.create w streamId
  late : ∀ streamId info, r = .stream true streamId [] →
    w.streams.find? streamId = some info → info.recvState.recvDone = true → permits.lateFin streamId

theorem Permits.all_admits (isServer : Bool) (w : WtSessionInfo) (r : Received) :
    Permits.all.Admits isServer w r :=
  ⟨fun _ _ _ _ => trivial, fun _ _ _ _ => trivial, fun _ _ _ _ _ => trivial⟩

namespace WtSessionInfo

/-- The entry of a stream as a received data capsule finds it: there already, or created. -/
inductive Reaches (permits : Permits) (config : H2SessionConfig) (isServer : Bool)
    (w : WtSessionInfo) (streamId : Nat) : WtStreamInfo → Prop
  | existing {info : WtStreamInfo} (hfind : w.streams.find? streamId = some info) :
      Reaches permits config isServer w streamId info
  | created (hcreate : permits.create w streamId) (hnone : w.streams.find? streamId = none)
      (hreleased : streamId ∉ w.releasedStreamIds)
      (hlimit : w.incomingStreamExceedsLimit streamId = false) :
      Reaches permits config isServer w streamId (w.newPeerStream config isServer streamId)

/-- Received capsules that leave the entry as it is. -/
def Unaffected (w : WtSessionInfo) : Received → Prop
  | .stream _ streamId data =>
      data = [] ∧ w.streams.find? streamId = none ∧ streamId ∈ w.releasedStreamIds
  | .streamDataBlocked _ => True
  | .streamsBlocked _ => True
  | .datagram _ => True
  | .drainSession => True
  | .ignored => True
  | _ => False

/-- The event of `handle_wt_stream`. -/
def streamEvents (fin : Bool) (streamId : Nat) (data : Bytes) : List H2Event :=
  if data.length > 0 ∨ fin then
    [{ type := .streamData, streamId := streamId, data := data, fin := fin }]
  else []

/-- The event of `handle_wt_reset_stream`. -/
def resetEvent (streamId errorCode : Nat) : H2Event :=
  { type := .streamReset, streamId := streamId, errorCode := errorCode }

/-- The event of `handle_wt_stop_sending`. -/
def stopEvent (streamId errorCode : Nat) : H2Event :=
  { type := .stopSending, streamId := streamId, errorCode := errorCode }

/-- The changes an operation is made of. -/
inductive Trans (permits : Permits) (config : H2SessionConfig) (isServer : Bool) :
    WtSessionInfo → Label → WtSessionInfo → Prop
  -- The sending half of a stream.
  | enqueue {w : WtSessionInfo} {streamId : Nat} {info : WtStreamInfo} (data : Bytes) (fin : Bool)
      (hfind : w.streams.find? streamId = some info)
      (hsendable : isSendableStream info.isLocal info.isUnidirectional = true)
      (hready : info.sendState.sendDone = false)
      (hfin : ∀ last, info.pendingSends.getLast? = some last → last.fin = false) :
      Trans permits config isServer w (.accepted streamId data fin)
        (w.setStream streamId { info with pendingSends := info.pendingSends ++ [⟨data, fin⟩] })
  | sendPart {w : WtSessionInfo} {streamId : Nat} {info : WtStreamInfo} {front : PendingSend}
      {rest : List PendingSend} {size : Nat}
      (hfind : w.streams.find? streamId = some info)
      (hready : info.sendState.sendDone = false)
      (hpending : info.pendingSends = front :: rest) (hsize : size < front.data.length)
      (hsession : w.bytesSent + size ≤ w.maxDataLocal)
      (hstream : info.bytesSent + size ≤ info.maxStreamDataLocal) :
      Trans permits config isServer w (.sent (.wtStream false streamId (front.data.take size)))
        ({ w with bytesSent := w.bytesSent + size }.setStream streamId
          { info with bytesSent := info.bytesSent + size,
                      pendingSends := { front with data := front.data.drop size } :: rest })
  | sendFront {w : WtSessionInfo} {streamId : Nat} {info : WtStreamInfo} {front : PendingSend}
      {rest : List PendingSend}
      (hfind : w.streams.find? streamId = some info)
      (hready : info.sendState.sendDone = false)
      (hpending : info.pendingSends = front :: rest)
      (hsession : w.bytesSent + front.data.length ≤ w.maxDataLocal)
      (hstream : info.bytesSent + front.data.length ≤ info.maxStreamDataLocal) :
      Trans permits config isServer w (.sent (.wtStream front.fin streamId front.data))
        ({ w with bytesSent := w.bytesSent + front.data.length }.setStream streamId
          { info with bytesSent := info.bytesSent + front.data.length, pendingSends := rest,
                      sendState := if front.fin then .dataSent else info.sendState })
  | clearPending {w : WtSessionInfo} {streamId : Nat} {info : WtStreamInfo}
      (hfind : w.streams.find? streamId = some info) (hdone : info.sendState.sendDone = true) :
      Trans permits config isServer w .internal
        (w.setStream streamId { info with pendingSends := [] })
  | dataBlocked {w : WtSessionInfo} :
      Trans permits config isServer w (.sent (.wtDataBlocked w.maxDataLocal))
        { w with dataBlockedSent := true }
  | streamDataBlocked {w : WtSessionInfo} {streamId : Nat} {info : WtStreamInfo}
      (hfind : w.streams.find? streamId = some info)
      (hready : info.sendState.sendDone = false) (hpending : info.pendingSends ≠ [])
      (hexhausted : info.bytesSent = info.maxStreamDataLocal) :
      Trans permits config isServer w
        (.sent (.wtStreamDataBlocked streamId info.maxStreamDataLocal))
        (w.setStream streamId { info with streamDataBlockedSent := true })
  | reset {w : WtSessionInfo} {streamId : Nat} {info : WtStreamInfo} (errorCode : Nat)
      (hpermit : permits.reset streamId) (hfind : w.streams.find? streamId = some info)
      (hready : info.sendState.sendDone = false) :
      Trans permits config isServer w (.sent (.wtResetStream streamId errorCode info.bytesSent))
        (w.setStream streamId { info with sendState := .resetSent, pendingSends := [] })
  -- The receiving half of a stream.
  | stop {w : WtSessionInfo} {streamId : Nat} {info : WtStreamInfo} (errorCode : Nat)
      (hpermit : permits.stop streamId) (hfind : w.streams.find? streamId = some info)
      (hfirst : streamId ∉ w.sentStopSendingStreamIds) :
      Trans permits config isServer w (.sent (.wtStopSending streamId errorCode))
        { w with sentStopSendingStreamIds := insert streamId w.sentStopSendingStreamIds }
  | release {w : WtSessionInfo} {streamId : Nat} {info : WtStreamInfo}
      (hfind : w.streams.find? streamId = some info) (hreleasable : releasable info = true) :
      Trans permits config isServer w .internal (w.dropStream streamId info)
  -- Limits given to the peer.
  | grantData {w : WtSessionInfo} {maxData : Nat} (hrise : w.maxDataRemote < maxData)
      (hle : maxData ≤ kMaxQuicVarint) :
      Trans permits config isServer w (.sent (.wtMaxData maxData))
        { w with maxDataRemote := maxData }
  | grantStreamData {w : WtSessionInfo} {streamId : Nat} {info : WtStreamInfo} {maxData : Nat}
      (hfind : w.streams.find? streamId = some info)
      (hreceivable : isReceivableDataCapsule streamId isServer = true)
      (hstop : streamId ∉ w.sentStopSendingStreamIds)
      (hrise : info.maxStreamDataRemote < maxData) (hle : maxData ≤ kMaxQuicVarint) :
      Trans permits config isServer w (.sent (.wtMaxStreamData streamId maxData))
        (w.setStream streamId { info with maxStreamDataRemote := maxData })
  | grantStreamsBidi {w : WtSessionInfo} (hlt : w.maxStreamsBidiRemote < kMaxStreamsLimit) :
      Trans permits config isServer w (.sent (.wtMaxStreamsBidi (w.maxStreamsBidiRemote + 1)))
        { w with maxStreamsBidiRemote := w.maxStreamsBidiRemote + 1 }
  | grantStreamsUni {w : WtSessionInfo} (hlt : w.maxStreamsUniRemote < kMaxStreamsLimit) :
      Trans permits config isServer w (.sent (.wtMaxStreamsUni (w.maxStreamsUniRemote + 1)))
        { w with maxStreamsUniRemote := w.maxStreamsUniRemote + 1 }
  -- Opening streams.
  | openBidi {w : WtSessionInfo}
      (hcreate : permits.create w (buildStreamId isServer false w.nextBidiStreamId))
      (hopened : w.streamsBidiOpened < w.maxStreamsBidiLocal)
      (hnone : w.streams.find? (buildStreamId isServer false w.nextBidiStreamId) = none) :
      Trans permits config isServer w .internal
        ((w.allocateStreamId false).setStream (buildStreamId isServer false w.nextBidiStreamId)
          (w.newStream config (buildStreamId isServer false w.nextBidiStreamId) true false))
  | openUni {w : WtSessionInfo}
      (hcreate : permits.create w (buildStreamId isServer true w.nextUniStreamId))
      (hopened : w.streamsUniOpened < w.maxStreamsUniLocal)
      (hnone : w.streams.find? (buildStreamId isServer true w.nextUniStreamId) = none) :
      Trans permits config isServer w .internal
        ((w.allocateStreamId true).setStream (buildStreamId isServer true w.nextUniStreamId)
          (w.newStream config (buildStreamId isServer true w.nextUniStreamId) true true))
  | streamsBlockedBidi {w : WtSessionInfo} :
      Trans permits config isServer w (.sent (.wtStreamsBlockedBidi w.maxStreamsBidiLocal))
        { w with streamsBlockedBidiSent := true }
  | streamsBlockedUni {w : WtSessionInfo} :
      Trans permits config isServer w (.sent (.wtStreamsBlockedUni w.maxStreamsUniLocal))
        { w with streamsBlockedUniSent := true }
  | sendDatagram {w : WtSessionInfo} (data : Bytes) :
      Trans permits config isServer w (.sent (.datagram data)) w
  | sendDrain {w : WtSessionInfo} : Trans permits config isServer w (.sent .wtDrainSession) w
  -- Received capsules.
  | recvStream {w : WtSessionInfo} {streamId : Nat} {info : WtStreamInfo} {fin : Bool}
      {data : Bytes}
      (hreceivable : isReceivableDataCapsule streamId isServer = true)
      (hreaches : Reaches permits config isServer w streamId info)
      (hstate : data ≠ [] → info.recvState.recvDone = false)
      (hlate : fin = true → info.recvState.recvDone = true → permits.lateFin streamId)
      (hsession : w.bytesReceived + data.length ≤ w.maxDataRemote)
      (hstream : info.bytesReceived + data.length ≤ info.maxStreamDataRemote) :
      Trans permits config isServer w
        (.received (.stream fin streamId data) (streamEvents fin streamId data))
        (w.countReceived streamId
          { info with recvState := if fin then .dataRecvd else info.recvState } data.length)
  | recvReset {w : WtSessionInfo} {streamId : Nat} {info : WtStreamInfo} {errorCode : Nat}
      (hreceivable : isReceivableDataCapsule streamId isServer = true)
      (hreaches : Reaches permits config isServer w streamId info)
      (hstate : info.recvState.recvDone = false) :
      Trans permits config isServer w
        (.received (.resetStream streamId errorCode info.bytesReceived)
          [resetEvent streamId errorCode])
        (w.setStream streamId { info with recvState := .resetRecvd })
  | recvStop {w : WtSessionInfo} {streamId : Nat} {info : WtStreamInfo} {errorCode : Nat}
      (hreceivable : isReceivableFlowCapsule streamId isServer = true)
      (hfirst : w.hasReceivedStopSending streamId = false)
      (hfind : w.streams.find? streamId = some info) :
      Trans permits config isServer w
        (.received (.stopSending streamId errorCode) [stopEvent streamId errorCode])
        ((w.recordStopSending streamId).setStream streamId
          { info with stopSendingReceived := true })
  | recvStopUnknown {w : WtSessionInfo} {streamId errorCode : Nat}
      (hreceivable : isReceivableFlowCapsule streamId isServer = true)
      (hfirst : w.hasReceivedStopSending streamId = false)
      (hfind : w.streams.find? streamId = none) :
      Trans permits config isServer w
        (.received (.stopSending streamId errorCode)
          (if streamId ∈ (w.recordStopSending streamId).receivedStopSendingStreamIds then
            [stopEvent streamId errorCode]
          else []))
        (w.recordStopSending streamId)
  | recvMaxData {w : WtSessionInfo} {maxData : Nat}
      (hrise : ∀ received, w.receivedMaxData = some received → received ≤ maxData) :
      Trans permits config isServer w (.received (.maxData maxData) [])
        (if maxData > w.maxDataLocal then
          { w with receivedMaxData := some maxData }.raiseMaxData maxData
        else { w with receivedMaxData := some maxData })
  | recvMaxStreamData {w : WtSessionInfo} {streamId maxData : Nat} {info : WtStreamInfo}
      (hreceivable : isReceivableFlowCapsule streamId isServer = true)
      (hstop : w.hasReceivedStopSending streamId = false)
      (hrise : ∀ previous, SessionScope.previousMaxStreamData isServer w streamId = some previous →
        previous ≤ maxData)
      (hfind : w.streams.find? streamId = some info) :
      Trans permits config isServer w (.received (.maxStreamData streamId maxData) [])
        (if maxData > info.maxStreamDataLocal then
          (w.recordMaxStreamData streamId maxData).raiseMaxStreamData streamId info maxData
        else w.recordMaxStreamData streamId maxData)
  | recvMaxStreamDataUnknown {w : WtSessionInfo} {streamId maxData : Nat}
      (hreceivable : isReceivableFlowCapsule streamId isServer = true)
      (hstop : w.hasReceivedStopSending streamId = false)
      (hrise : ∀ previous, SessionScope.previousMaxStreamData isServer w streamId = some previous →
        previous ≤ maxData)
      (hfind : w.streams.find? streamId = none) :
      Trans permits config isServer w (.received (.maxStreamData streamId maxData) [])
        (w.recordMaxStreamData streamId maxData)
  | recvMaxStreamsBidi {w : WtSessionInfo} {maxStreams : Nat} (hle : maxStreams ≤ kMaxStreamsLimit)
      (hrise : ∀ received, w.receivedMaxStreamsBidi = some received → received ≤ maxStreams) :
      Trans permits config isServer w (.received (.maxStreams true maxStreams) [])
        (if maxStreams > w.maxStreamsBidiLocal then
          { w with receivedMaxStreamsBidi := some maxStreams, maxStreamsBidiLocal := maxStreams,
                   streamsBlockedBidiSent := false }
        else { w with receivedMaxStreamsBidi := some maxStreams })
  | recvMaxStreamsUni {w : WtSessionInfo} {maxStreams : Nat} (hle : maxStreams ≤ kMaxStreamsLimit)
      (hrise : ∀ received, w.receivedMaxStreamsUni = some received → received ≤ maxStreams) :
      Trans permits config isServer w (.received (.maxStreams false maxStreams) [])
        (if maxStreams > w.maxStreamsUniLocal then
          { w with receivedMaxStreamsUni := some maxStreams, maxStreamsUniLocal := maxStreams,
                   streamsBlockedUniSent := false }
        else { w with receivedMaxStreamsUni := some maxStreams })
  -- Capsules that leave the entry as it is.
  | recvNothing {w : WtSessionInfo} {r : Received} (hnothing : w.Unaffected r) :
      Trans permits config isServer w (.received r r.quietEvents) w

/-! ## Well-formed entries -/

/-- What holds of every stream entry: it sits under its id, its flags are the bits of the id, and
its queue can only be non-empty where there is something to send, with a FIN only at its end. -/
structure WfStream (isServer : Bool) (streamId : Nat) (info : WtStreamInfo) : Prop where
  id_eq : info.streamId = streamId
  local_eq : info.isLocal = (isServerId streamId == isServer)
  uni_eq : info.isUnidirectional = isUniId streamId
  send_state : info.sendState = .ready ∨ info.sendState.sendDone = true
  recv_state : info.recvState = .recv ∨ info.recvState.recvDone = true
  recv_only : isReceivableDataCapsule streamId isServer = false → info.recvState = .recv
  fin_last : ∀ p ∈ info.pendingSends.dropLast, p.fin = false
  pending_sendable : info.pendingSends ≠ [] →
    isSendableStream info.isLocal info.isUnidirectional = true
  sent_le : info.bytesSent ≤ info.maxStreamDataLocal

/-- Every stream entry is well formed, and no more was sent than the peer allows. -/
structure Wf (isServer : Bool) (w : WtSessionInfo) : Prop where
  stream : ∀ ⦃streamId : Nat⦄ ⦃info : WtStreamInfo⦄, w.streams.find? streamId = some info →
    WfStream isServer streamId info
  sent_le : w.bytesSent ≤ w.maxDataLocal

theorem wf_of_streams {isServer : Bool} {w w' : WtSessionInfo} (h : Wf isServer w)
    (hstreams : w'.streams = w.streams) (hsent : w'.bytesSent ≤ w'.maxDataLocal) :
    Wf isServer w' := by
  refine ⟨?_, hsent⟩
  intro streamId info hfind
  rw [hstreams] at hfind
  exact h.stream hfind

theorem Wf.setStream {isServer : Bool} {w : WtSessionInfo} {streamId : Nat} {info : WtStreamInfo}
    (h : Wf isServer w) (hinfo : WfStream isServer streamId info) :
    Wf isServer (w.setStream streamId info) := by
  refine ⟨?_, h.sent_le⟩
  intro streamId' info' hfind
  rw [find?_setStream] at hfind
  split_ifs at hfind with heq
  · cases hfind
    rw [heq]
    exact hinfo
  · exact h.stream hfind

theorem Wf.dropStream {isServer : Bool} {w : WtSessionInfo} (h : Wf isServer w) (streamId : Nat)
    (info : WtStreamInfo) : Wf isServer (w.dropStream streamId info) := by
  refine ⟨?_, h.sent_le⟩
  intro streamId' info' hfind
  have hfind' : (w.streams.erase streamId).find? streamId' = some info' := hfind
  rw [OrdMap.find?_erase] at hfind'
  split_ifs at hfind' with heq
  exact h.stream hfind'

/-- A fresh entry is well formed when its flags are the bits of its id. -/
theorem wfStream_newStream {isServer : Bool} (w : WtSessionInfo) (config : H2SessionConfig)
    {streamId : Nat} {isLocal isUni : Bool} (hlocal : isLocal = (isServerId streamId == isServer))
    (huni : isUni = isUniId streamId) :
    WfStream isServer streamId (w.newStream config streamId isLocal isUni) := by
  have hinit : ∀ info : WtStreamInfo, w.initializeStreamSendCredit info =
      { info with
        maxStreamDataLocal := (w.initializeStreamSendCredit info).maxStreamDataLocal } := by
    intro info
    unfold initializeStreamSendCredit
    cases w.receivedMaxStreamDataById.find? info.streamId <;> rfl
  unfold newStream
  rw [hinit]
  exact ⟨rfl, hlocal, huni, Or.inl rfl, Or.inl rfl, fun _ => rfl,
    fun p hp => absurd hp List.not_mem_nil, fun hne => absurd rfl hne, Nat.zero_le _⟩

theorem wfStream_newPeerStream {isServer : Bool} (w : WtSessionInfo) (config : H2SessionConfig)
    (streamId : Nat) : WfStream isServer streamId (w.newPeerStream config isServer streamId) :=
  wfStream_newStream w config rfl rfl

theorem newStream_recvState (w : WtSessionInfo) (config : H2SessionConfig) (streamId : Nat)
    (isLocal isUni : Bool) : (w.newStream config streamId isLocal isUni).recvState = .recv := by
  unfold newStream initializeStreamSendCredit
  cases w.receivedMaxStreamDataById.find? streamId <;> rfl

theorem newPeerStream_bytesReceived (w : WtSessionInfo) (config : H2SessionConfig) (isServer : Bool)
    (streamId : Nat) : (w.newPeerStream config isServer streamId).bytesReceived = 0 := by
  unfold newPeerStream newStream initializeStreamSendCredit
  cases w.receivedMaxStreamDataById.find? streamId <;> rfl

theorem newPeerStream_recvState (w : WtSessionInfo) (config : H2SessionConfig) (isServer : Bool)
    (streamId : Nat) : (w.newPeerStream config isServer streamId).recvState = .recv :=
  newStream_recvState w config streamId _ _

theorem Reaches.wfStream {permits : Permits} {config : H2SessionConfig} {isServer : Bool}
    {w : WtSessionInfo} {streamId : Nat} {info : WtStreamInfo}
    (h : Reaches permits config isServer w streamId info)
    (hwf : Wf isServer w) : WfStream isServer streamId info := by
  cases h with
  | existing hfind => exact hwf.stream hfind
  | created => exact wfStream_newPeerStream w config streamId

section Preserved

variable {permits : Permits} {config : H2SessionConfig} {isServer : Bool} {w w' : WtSessionInfo}
  {l : Label}

theorem WfStream.dropLast_fin {streamId : Nat} {info : WtStreamInfo}
    (h : WfStream isServer streamId info) {front : PendingSend} {rest : List PendingSend}
    (hpending : info.pendingSends = front :: rest) : ∀ p ∈ rest.dropLast, p.fin = false := by
  intro p hp
  refine h.fin_last p ?_
  rw [hpending]
  cases rest with
  | nil => exact absurd hp List.not_mem_nil
  | cons next rest => exact List.mem_cons_of_mem _ hp

/-- Every change keeps the entries well formed. -/
theorem Trans.wf (h : Trans permits config isServer w l w') (hwf : Wf isServer w) :
    Wf isServer w' := by
  cases h with
  | enqueue data fin hfind hsendable hready hfin =>
      have hinfo := hwf.stream hfind
      refine hwf.setStream ⟨hinfo.id_eq, hinfo.local_eq, hinfo.uni_eq, hinfo.send_state,
        hinfo.recv_state, hinfo.recv_only, ?_, fun _ => hsendable, hinfo.sent_le⟩
      -- The old queue is now in front of the last element, so its FIN flags must all be false.
      intro p hp
      rw [List.dropLast_concat] at hp
      rcases List.eq_nil_or_concat' (WtStreamInfo.pendingSends _) with hnil | ⟨init, last, hconcat⟩
      · rw [hnil] at hp
        exact absurd hp List.not_mem_nil
      · rw [hconcat] at hp
        rcases List.mem_append.1 hp with hp | hp
        · refine hinfo.fin_last p ?_
          rw [hconcat, List.dropLast_concat]
          exact hp
        · rw [List.mem_singleton.1 hp]
          exact hfin last (by rw [hconcat, List.getLast?_concat])
  | @sendPart streamId info front rest size hfind hready hpending hsize hsession hstream =>
      have hinfo := hwf.stream hfind
      have hsendable := hinfo.pending_sendable (by rw [hpending]; exact List.cons_ne_nil _ _)
      refine Wf.setStream (wf_of_streams hwf rfl hsession) ⟨hinfo.id_eq, hinfo.local_eq,
        hinfo.uni_eq, hinfo.send_state, hinfo.recv_state, hinfo.recv_only, ?_, fun _ => hsendable,
        hstream⟩
      have hold := hinfo.fin_last
      rw [hpending] at hold
      cases rest with
      | nil => exact fun p hp => absurd hp List.not_mem_nil
      | cons next rest =>
          intro p hp
          rcases List.mem_cons.1 hp with rfl | hp
          · exact hold front List.mem_cons_self
          · exact hold p (List.mem_cons_of_mem _ hp)
  | @sendFront streamId info front rest hfind hready hpending hsession hstream =>
      have hinfo := hwf.stream hfind
      have hsendable := hinfo.pending_sendable (by rw [hpending]; exact List.cons_ne_nil _ _)
      refine Wf.setStream (wf_of_streams hwf rfl hsession) ⟨hinfo.id_eq, hinfo.local_eq,
        hinfo.uni_eq, ?_, hinfo.recv_state, hinfo.recv_only, hinfo.dropLast_fin hpending,
        fun _ => hsendable, hstream⟩
      dsimp only
      split_ifs
      · exact Or.inr rfl
      · exact hinfo.send_state
  | clearPending hfind hdone =>
      have hinfo := hwf.stream hfind
      exact hwf.setStream ⟨hinfo.id_eq, hinfo.local_eq, hinfo.uni_eq, hinfo.send_state,
        hinfo.recv_state, hinfo.recv_only, fun p hp => absurd hp List.not_mem_nil,
        fun hne => absurd rfl hne, hinfo.sent_le⟩
  | dataBlocked => exact wf_of_streams hwf rfl hwf.sent_le
  | streamDataBlocked hfind hready hpending hexhausted =>
      have hinfo := hwf.stream hfind
      exact hwf.setStream ⟨hinfo.id_eq, hinfo.local_eq, hinfo.uni_eq, hinfo.send_state,
        hinfo.recv_state, hinfo.recv_only, hinfo.fin_last, hinfo.pending_sendable, hinfo.sent_le⟩
  | reset errorCode hpermit hfind hready =>
      have hinfo := hwf.stream hfind
      exact hwf.setStream ⟨hinfo.id_eq, hinfo.local_eq, hinfo.uni_eq, Or.inr rfl,
        hinfo.recv_state, hinfo.recv_only, fun p hp => absurd hp List.not_mem_nil,
        fun hne => absurd rfl hne, hinfo.sent_le⟩
  | stop errorCode hpermit hfind hfirst => exact wf_of_streams hwf rfl hwf.sent_le
  | release hfind hreleasable => exact hwf.dropStream _ _
  | grantData hrise hle => exact wf_of_streams hwf rfl hwf.sent_le
  | grantStreamData hfind hreceivable hstop hrise hle =>
      have hinfo := hwf.stream hfind
      exact hwf.setStream ⟨hinfo.id_eq, hinfo.local_eq, hinfo.uni_eq, hinfo.send_state,
        hinfo.recv_state, hinfo.recv_only, hinfo.fin_last, hinfo.pending_sendable, hinfo.sent_le⟩
  | grantStreamsBidi hlt => exact wf_of_streams hwf rfl hwf.sent_le
  | grantStreamsUni hlt => exact wf_of_streams hwf rfl hwf.sent_le
  | openBidi hcreate hopened hnone =>
      refine Wf.setStream (wf_of_streams hwf rfl hwf.sent_le) (wfStream_newStream w config ?_ ?_)
      · rw [isServerId_buildStreamId, beq_self_eq_true]
      · rw [isUniId_buildStreamId]
  | openUni hcreate hopened hnone =>
      refine Wf.setStream (wf_of_streams hwf rfl hwf.sent_le) (wfStream_newStream w config ?_ ?_)
      · rw [isServerId_buildStreamId, beq_self_eq_true]
      · rw [isUniId_buildStreamId]
  | streamsBlockedBidi => exact wf_of_streams hwf rfl hwf.sent_le
  | streamsBlockedUni => exact wf_of_streams hwf rfl hwf.sent_le
  | sendDatagram data => exact hwf
  | sendDrain => exact hwf
  | @recvStream streamId info fin data hreceivable hreaches hstate hlate hsession hstream =>
      have hinfo := hreaches.wfStream hwf
      refine Wf.setStream (wf_of_streams hwf rfl hwf.sent_le) ⟨hinfo.id_eq, hinfo.local_eq,
        hinfo.uni_eq, hinfo.send_state, ?_, fun hnot => absurd hreceivable (by simp [hnot]),
        hinfo.fin_last, hinfo.pending_sendable, hinfo.sent_le⟩
      cases fin with
      | true => exact Or.inr rfl
      | false => exact hinfo.recv_state
  | recvReset hreceivable hreaches hstate =>
      have hinfo := hreaches.wfStream hwf
      exact hwf.setStream ⟨hinfo.id_eq, hinfo.local_eq, hinfo.uni_eq, hinfo.send_state, Or.inr rfl,
        fun hnot => absurd hreceivable (by simp [hnot]), hinfo.fin_last, hinfo.pending_sendable,
        hinfo.sent_le⟩
  | recvStop hreceivable hfirst hfind =>
      have hinfo := hwf.stream hfind
      exact Wf.setStream (wf_of_streams hwf rfl hwf.sent_le) ⟨hinfo.id_eq, hinfo.local_eq,
        hinfo.uni_eq, hinfo.send_state, hinfo.recv_state, hinfo.recv_only, hinfo.fin_last,
        hinfo.pending_sendable, hinfo.sent_le⟩
  | recvStopUnknown hreceivable hfirst hfind => exact wf_of_streams hwf rfl hwf.sent_le
  | recvMaxData hrise =>
      split_ifs with hgt
      · exact wf_of_streams hwf rfl (le_of_lt (lt_of_le_of_lt hwf.sent_le hgt))
      · exact wf_of_streams hwf rfl hwf.sent_le
  | recvMaxStreamData hreceivable hstop hrise hfind =>
      have hinfo := hwf.stream hfind
      split_ifs with hgt
      · exact Wf.setStream (wf_of_streams hwf rfl hwf.sent_le) ⟨hinfo.id_eq, hinfo.local_eq,
          hinfo.uni_eq, hinfo.send_state, hinfo.recv_state, hinfo.recv_only, hinfo.fin_last,
          hinfo.pending_sendable, le_of_lt (lt_of_le_of_lt hinfo.sent_le hgt)⟩
      · exact wf_of_streams hwf rfl hwf.sent_le
  | recvMaxStreamDataUnknown hreceivable hstop hrise hfind =>
      exact wf_of_streams hwf rfl hwf.sent_le
  | recvMaxStreamsBidi hle hrise =>
      split_ifs
      · exact wf_of_streams hwf rfl hwf.sent_le
      · exact wf_of_streams hwf rfl hwf.sent_le
  | recvMaxStreamsUni hle hrise =>
      split_ifs
      · exact wf_of_streams hwf rfl hwf.sent_le
      · exact wf_of_streams hwf rfl hwf.sent_le
  | recvNothing hnothing => exact hwf

/-- The record of released streams only grows. -/
theorem Trans.released_subset (h : Trans permits config isServer w l w') :
    w.releasedStreamIds ⊆ w'.releasedStreamIds := by
  cases h with
  | release hfind hreleasable =>
      unfold WtSessionInfo.dropStream
      dsimp only
      split_ifs
      · exact Finset.subset_insert _ _
      · exact Finset.Subset.refl _
  | recvMaxData hrise => split_ifs <;> exact Finset.Subset.refl _
  | recvMaxStreamData hreceivable hstop hrise hfind => split_ifs <;> exact Finset.Subset.refl _
  | recvMaxStreamsBidi hle hrise => split_ifs <;> exact Finset.Subset.refl _
  | recvMaxStreamsUni hle hrise => split_ifs <;> exact Finset.Subset.refl _
  | openBidi hcreate hopened hnone => exact Finset.Subset.refl _
  | openUni hcreate hopened hnone => exact Finset.Subset.refl _
  | _ => exact Finset.Subset.refl _

/-- The part of an entry that no stream operation touches: the stages of the session's life and
the bytes of an unfinished capsule. -/
def stage (w : WtSessionInfo) : Bool × Bool × Bool × Bytes :=
  (w.isEstablished, w.isTerminated, w.preAcceptEndStream, w.capsuleBuffer)

theorem Trans.stage_eq (h : Trans permits config isServer w l w') : w'.stage = w.stage := by
  cases h with
  | recvMaxData hrise => split_ifs <;> rfl
  | recvMaxStreamData hreceivable hstop hrise hfind => split_ifs <;> rfl
  | recvMaxStreamsBidi hle hrise => split_ifs <;> rfl
  | recvMaxStreamsUni hle hrise => split_ifs <;> rfl
  | _ => rfl

end Preserved

/-! ## Operations that only queue capsules -/

/-- There is a path from `w` that queues exactly the capsules of `q` and ends in its entry. -/
def Emits (permits : Permits) (config : H2SessionConfig) (isServer : Bool) (w : WtSessionInfo)
    (q : Queued) : Prop :=
  ∃ ls, Path (Trans permits config isServer) w ls q.1 ∧ Label.sentOf ls = q.2 ∧
    Label.receivedOf ls = [] ∧ Label.acceptedOf ls = []

section Emits

variable {permits : Permits} {config : H2SessionConfig} {isServer : Bool} {w w' : WtSessionInfo}

namespace Emits

theorem refl (w : WtSessionInfo) : Emits permits config isServer w (w, []) :=
  ⟨[], Path.none w, rfl, rfl, rfl⟩

theorem sent {c : Capsule} (h : Trans permits config isServer w (.sent c) w') :
    Emits permits config isServer w (w', [c]) :=
  ⟨[.sent c], Path.one h, rfl, rfl, rfl⟩

theorem internal (h : Trans permits config isServer w .internal w') :
    Emits permits config isServer w (w', []) :=
  ⟨[.internal], Path.one h, rfl, rfl, rfl⟩

theorem trans {cs cs' : List Capsule} {w'' : WtSessionInfo}
    (h : Emits permits config isServer w (w', cs))
    (h' : Emits permits config isServer w' (w'', cs')) :
    Emits permits config isServer w (w'', cs ++ cs') := by
  rcases h with ⟨ls, hpath, hsent, hrecv, hacc⟩
  rcases h' with ⟨ls', hpath', hsent', hrecv', hacc'⟩
  refine ⟨ls ++ ls', hpath.join hpath', ?_, ?_, ?_⟩
  · rw [Label.sentOf_append, hsent, hsent']
  · rw [Label.receivedOf_append, hrecv, hrecv']
    rfl
  · rw [Label.acceptedOf_append, hacc, hacc']
    rfl

theorem andThen {q : Queued} {f : WtSessionInfo → Queued} (h : Emits permits config isServer w q)
    (h' : Emits permits config isServer q.1 (f q.1)) :
    Emits permits config isServer w (q.andThen f) := h.trans h'

theorem wf {q : Queued} (h : Emits permits config isServer w q) (hwf : Wf isServer w) :
    Wf isServer q.1 := by
  rcases h with ⟨ls, hpath, -⟩
  exact hpath.invariant (Wf isServer) (fun ha hab => hab.wf ha) hwf

end Emits

theorem replenishedLimit_le (bytesReceived initial : Nat) :
    replenishedLimit bytesReceived initial ≤ kMaxQuicVarint := by
  unfold replenishedLimit
  dsimp only
  split_ifs with h
  · exact le_refl _
  · omega

theorem maybeSendMaxData_emits (w : WtSessionInfo) :
    Emits permits config isServer w (w.maybeSendMaxData config) := by
  unfold maybeSendMaxData
  dsimp only
  split_ifs with hterm hzero hhalf hle
  · exact .refl w
  · exact .refl w
  · exact .refl w
  · exact .refl w
  · exact .sent (.grantData (not_le.1 hle) (replenishedLimit_le _ _))

theorem maybeSendMaxStreamData_emits (w : WtSessionInfo) {streamId : Nat}
    (hreceivable : isReceivableDataCapsule streamId isServer = true) :
    Emits permits config isServer w (w.maybeSendMaxStreamData config streamId) := by
  unfold maybeSendMaxStreamData
  cases hfind : w.streams.find? streamId with
  | none =>
      dsimp only
      split_ifs <;> exact .refl w
  | some info =>
      dsimp only
      split_ifs with hterm hstop hzero hhalf hle
      · exact .refl w
      · exact .refl w
      · exact .refl w
      · exact .refl w
      · exact .refl w
      · exact .sent
          (.grantStreamData hfind hreceivable hstop (not_le.1 hle) (replenishedLimit_le _ _))

theorem replenishStreams_emits (w : WtSessionInfo) (isUni : Bool) :
    Emits permits config isServer w (w.replenishStreams isUni) := by
  unfold replenishStreams
  split_ifs with huni hlt hlt
  · exact .sent (.grantStreamsUni hlt)
  · exact .refl w
  · exact .sent (.grantStreamsBidi hlt)
  · exact .refl w

theorem maybeReleaseStream_emits (w : WtSessionInfo) (streamId : Nat) :
    Emits permits config isServer w (w.maybeReleaseStream streamId) := by
  unfold maybeReleaseStream
  cases hfind : w.streams.find? streamId with
  | none => exact .refl w
  | some info =>
      dsimp only
      split_ifs with hrel hlocal
      · exact .internal (.release hfind hrel)
      · exact Emits.trans (.internal (.release hfind hrel)) (replenishStreams_emits _ _)
      · exact .refl w

/-! ### Flushing -/

/-- What the two credits admit together. -/
theorem sendable_le {sent limit sent' limit' size : Nat} :
    let n := sendableBytes (availableCredit sent limit size) (availableCredit sent' limit' size)
    n ≤ size ∧ (0 < n → sent + n ≤ limit ∧ sent' + n ≤ limit') := by
  unfold sendableBytes availableCredit
  dsimp only
  split_ifs <;> refine ⟨by omega, fun h => ⟨by omega, by omega⟩⟩

/-- Where the stream credit is the smaller one and cuts the data short, all of it is used up. -/
theorem stream_exhausted {sent limit sent' limit' size : Nat} (hle : sent' ≤ limit')
    (hshort : sendableBytes (availableCredit sent limit size) (availableCredit sent' limit' size) <
      size) (hstream : availableCredit sent' limit' size ≤ availableCredit sent limit size) :
    sent' + sendableBytes (availableCredit sent limit size) (availableCredit sent' limit' size) =
      limit' := by
  have hmin : sendableBytes (availableCredit sent limit size) (availableCredit sent' limit' size) =
      availableCredit sent' limit' size := by
    unfold sendableBytes
    split_ifs <;> omega
  rw [hmin] at hshort ⊢
  unfold availableCredit at hshort ⊢
  dsimp only at hshort ⊢
  split_ifs at hshort ⊢ <;> omega

/-- The stream entry while the inner loop of the flush runs. -/
def flushing (w : WtSessionInfo) (streamId : Nat) (info : WtStreamInfo)
    (pending : List PendingSend) (sessionSent streamSent : Nat) : WtSessionInfo :=
  { w with bytesSent := sessionSent }.setStream streamId
    { info with pendingSends := pending, bytesSent := streamSent }

/-- Moving the loop on by one capsule forgets where it was. -/
theorem flushing_next (w : WtSessionInfo) (streamId : Nat) (info info' : WtStreamInfo)
    (pending : List PendingSend) (sessionSent streamSent sessionSent' : Nat) :
    { w.flushing streamId info pending sessionSent streamSent with bytesSent := sessionSent'
        }.setStream streamId info' =
      { w with bytesSent := sessionSent' }.setStream streamId info' := by
  simp only [flushing, setStream, OrdMap.insert_insert]

theorem afterFlush_eq (w : WtSessionInfo) (streamId : Nat) (info : WtStreamInfo) (loop : FlushLoop)
    (hfin : loop.finSent = false) :
    w.afterFlush streamId info loop =
      w.flushing streamId info loop.pending loop.sessionSent loop.streamSent := by
  simp [flushing, afterFlush, FlushLoop.info, hfin]

theorem afterFlush_fin (w : WtSessionInfo) (streamId : Nat) {info : WtStreamInfo}
    (hready : info.sendState = .ready) (loop : FlushLoop) (hfin : loop.finSent = true) :
    w.afterFlush streamId info loop =
      w.flushing streamId { info with sendState := .dataSent } loop.pending loop.sessionSent
        loop.streamSent := by
  simp [flushing, afterFlush, FlushLoop.info, hfin, hready]

/-- The inner loop sends from the front of the queue, capsule by capsule. -/
theorem flushLoop_emits (w : WtSessionInfo) (streamId : Nat) {info : WtStreamInfo}
    (hready : info.sendState = .ready) (pending : List PendingSend) (sessionSent streamSent : Nat) :
    let loop := flushLoop streamId w.maxDataLocal info.maxStreamDataLocal pending sessionSent
      streamSent
    Emits permits config isServer (w.flushing streamId info pending sessionSent streamSent)
      (w.afterFlush streamId info loop, loop.capsules) := by
  induction pending generalizing sessionSent streamSent with
  | nil =>
      dsimp only [flushLoop]
      rw [afterFlush_eq w streamId info _ rfl]
      exact .refl _
  | cons front rest ih =>
      have hnot : info.sendState.sendDone = false := by rw [hready]; rfl
      have hcredit := @sendable_le sessionSent w.maxDataLocal streamSent info.maxStreamDataLocal
        front.data.length
      dsimp only at hcredit
      dsimp only [flushLoop]
      generalize hsend : sendableBytes
        (availableCredit sessionSent w.maxDataLocal front.data.length)
        (availableCredit streamSent info.maxStreamDataLocal front.data.length) = size at hcredit ⊢
      rcases hcredit with ⟨hsize, hfits⟩
      have hfind : (w.flushing streamId info (front :: rest) sessionSent streamSent).streams.find?
          streamId = some { info with pendingSends := front :: rest, bytesSent := streamSent } :=
        find?_setStream_self _ _ _
      by_cases hzero : size = 0
      · -- No credit: the loop stops where it is.
        rw [if_pos hzero]
        rw [afterFlush_eq w streamId info _ rfl]
        exact .refl _
      · rw [if_neg hzero]
        rcases hfits (Nat.pos_of_ne_zero hzero) with ⟨hsession, hstream⟩
        by_cases hpart : size < front.data.length
        · rw [if_pos hpart]
          have hstep : Trans permits config isServer _ _ _ :=
            .sendPart hfind hnot rfl hpart hsession hstream
          rw [flushing_next] at hstep
          rw [afterFlush_eq w streamId info _ rfl]
          exact Emits.sent hstep
        · have hall : size = front.data.length := by omega
          rw [if_neg hpart]
          rw [hall] at hsession hstream
          have hstep : Trans permits config isServer _ _ _ :=
            .sendFront hfind hnot rfl hsession hstream
          rw [flushing_next] at hstep
          rw [hall]
          cases hfin : front.fin with
          | true =>
              rw [hfin] at hstep
              rw [if_pos rfl, afterFlush_fin w streamId hready _ rfl]
              exact Emits.sent hstep
          | false =>
              rw [if_neg Bool.false_ne_true]
              have hnext := ih (sessionSent + front.data.length) (streamSent + front.data.length)
              have hfirst : Emits permits config isServer
                  (w.flushing streamId info (front :: rest) sessionSent streamSent)
                  (w.flushing streamId info rest (sessionSent + front.data.length)
                    (streamSent + front.data.length), [.wtStream false streamId front.data]) := by
                rw [hfin] at hstep
                exact Emits.sent hstep
              exact hfirst.trans hnext

theorem flushStream_emits (hwf : Wf isServer w) (streamId : Nat) :
    Emits permits config isServer w (w.flushStream streamId) := by
  unfold flushStream
  cases hfind : w.streams.find? streamId with
  | none => exact .refl w
  | some info =>
      dsimp only
      by_cases hdone : info.sendState.sendDone = true
      · rw [if_pos hdone]
        exact .internal (.clearPending hfind hdone)
      · rw [if_neg hdone]
        have hready : info.sendState = .ready := by
          rcases (hwf.stream hfind).send_state with h | h
          · exact h
          · exact absurd h hdone
        have hself : w.flushing streamId info info.pendingSends w.bytesSent info.bytesSent = w :=
          setStream_of_find? hfind
        have hloop : Emits permits config isServer
            (w.flushing streamId info info.pendingSends w.bytesSent info.bytesSent)
            (w.afterFlush streamId info (w.runFlushLoop streamId info),
              (w.runFlushLoop streamId info).capsules) :=
          flushLoop_emits w streamId hready info.pendingSends w.bytesSent info.bytesSent
        rw [hself] at hloop
        split_ifs
        · exact hloop.andThen (maybeReleaseStream_emits _ streamId)
        · exact hloop

theorem flushWalk_emits (hwf : Wf isServer w) (ids : List Nat) :
    Emits permits config isServer w (w.flushWalk ids) := by
  induction ids generalizing w with
  | nil => exact .refl w
  | cons streamId rest ih =>
      have hfirst : Emits permits config isServer w (w.flushStream streamId) :=
        flushStream_emits hwf streamId
      exact hfirst.andThen (ih (hfirst.wf hwf))

theorem flushRounds_emits (hwf : Wf isServer w) (fuel : Nat) :
    Emits permits config isServer w (w.flushRounds fuel) := by
  induction fuel generalizing w with
  | zero => exact .refl w
  | succ fuel ih =>
      have hwalk : Emits permits config isServer w (w.flushWalk w.streams.keys) :=
        flushWalk_emits hwf w.streams.keys
      unfold flushRounds
      dsimp only
      split_ifs
      · exact hwalk
      · exact hwalk.andThen (ih (hwalk.wf hwf))

theorem flushPendingSends_emits (hwf : Wf isServer w) :
    Emits permits config isServer w w.flushPendingSends := by
  unfold flushPendingSends
  split_ifs
  · exact .refl w
  · exact flushRounds_emits hwf _

/-! ### The calls of the application -/

/-- The check of the send state as `send_stream_data` and `reset_stream` write it. -/
theorem sendDone_iff {state : StreamState} :
    state.sendDone = true ↔ state = .resetSent ∨ state = .dataSent := by
  cases state <;> decide

theorem resetStream_emits (w : WtSessionInfo) {streamId : Nat} (hpermit : permits.reset streamId)
    (errorCode : Nat) :
    Emits permits config isServer w (w.resetStream streamId errorCode) := by
  unfold resetStream
  cases hfind : w.streams.find? streamId with
  | none =>
      dsimp only
      split_ifs <;> exact .refl w
  | some info =>
      dsimp only
      split_ifs with hterm hdone
      · exact .refl w
      · exact .refl w
      · have hready : info.sendState.sendDone = false :=
          Bool.eq_false_iff.2 fun h => hdone (sendDone_iff.1 h)
        exact Emits.andThen (.sent (.reset errorCode hpermit hfind hready))
          (maybeReleaseStream_emits _ streamId)

theorem stopSending_emits (w : WtSessionInfo) {streamId : Nat} (hpermit : permits.stop streamId)
    (errorCode : Nat) :
    Emits permits config isServer w (w.stopSending streamId errorCode) := by
  unfold stopSending
  cases hfind : w.streams.find? streamId with
  | none =>
      simp only [Option.isNone_none, if_true]
      split_ifs <;> exact .refl w
  | some info =>
      simp only [Option.isNone_some, Bool.false_eq_true, if_false]
      split_ifs with hterm hfirst
      · exact .refl w
      · exact .refl w
      · exact .sent (.stop errorCode hpermit hfind hfirst)

theorem sendDatagram_emits (w : WtSessionInfo) (data : Bytes) :
    Emits permits config isServer w (w.sendDatagram data) := by
  unfold sendDatagram
  split_ifs
  · exact .refl w
  · exact .refl w
  · exact .sent (.sendDatagram data)

theorem drainSession_emits (w : WtSessionInfo) :
    Emits permits config isServer w w.drainSession := by
  unfold drainSession
  split_ifs
  · exact .refl w
  · exact .refl w
  · exact .sent .sendDrain

/-- The id the next `open_stream` hands out. -/
def nextStreamId (isServer isUni : Bool) (w : WtSessionInfo) : Nat :=
  buildStreamId isServer isUni (if isUni then w.nextUniStreamId else w.nextBidiStreamId)

/-- The peer's stream limit leaves room for one more stream. -/
def hasRoom (isUni : Bool) (w : WtSessionInfo) : Prop :=
  if isUni then w.streamsUniOpened < w.maxStreamsUniLocal
  else w.streamsBidiOpened < w.maxStreamsBidiLocal

theorem openStream_emits (w : WtSessionInfo) (isUni : Bool)
    (hcreate : w.streams.find? (w.nextStreamId isServer isUni) = none → w.hasRoom isUni →
      permits.create w (w.nextStreamId isServer isUni)) :
    Emits permits config isServer w (w.openStream config isServer isUni).1 := by
  unfold openStream
  cases isUni with
  | true =>
      simp only [if_true, true_and, Bool.not_true, Bool.false_eq_true, false_and, if_false]
      split_ifs with hest hfull hsent hsome
      · exact .refl w
      · exact .sent .streamsBlockedUni
      · exact .refl w
      · exact .refl w
      · have hnone := Option.not_isSome_iff_eq_none.1 hsome
        exact .internal (.openUni (hcreate hnone (not_le.1 hfull)) (not_le.1 hfull) hnone)
  | false =>
      simp only [if_false, true_and, Bool.not_false, Bool.false_eq_true, false_and]
      split_ifs with hest hfull hsent hsome
      · exact .refl w
      · exact .sent .streamsBlockedBidi
      · exact .refl w
      · exact .refl w
      · have hnone := Option.not_isSome_iff_eq_none.1 hsome
        exact .internal (.openBidi (hcreate hnone (not_le.1 hfull)) (not_le.1 hfull) hnone)

end Emits

/-! ## Sending data -/

/-- `send_stream_data` takes the data in: the session goes on, and the entry is there, can be sent
on, has not ended its sending half and has no FIN in its queue. -/
def takesData (w : WtSessionInfo) (streamId : Nat) : Bool :=
  !w.isTerminated &&
    match w.streams.find? streamId with
    | none => false
    | some info =>
        isSendableStream info.isLocal info.isUnidirectional && !info.sendState.sendDone &&
          match info.pendingSends.getLast? with
          | none => true
          | some last => !last.fin

section SendData

variable {permits : Permits} {config : H2SessionConfig} {isServer : Bool} {w : WtSessionInfo}
  {streamId : Nat}

theorem takesData_spec (h : w.takesData streamId = true) :
    ∃ info, w.isTerminated = false ∧ w.streams.find? streamId = some info ∧
      isSendableStream info.isLocal info.isUnidirectional = true ∧
      info.sendState.sendDone = false ∧
      ∀ last, info.pendingSends.getLast? = some last → last.fin = false := by
  unfold takesData at h
  cases hfind : w.streams.find? streamId with
  | none => simp [hfind] at h
  | some info =>
      cases hlast : info.pendingSends.getLast? with
      | none =>
          simp only [hfind, hlast, Bool.and_eq_true, Bool.not_eq_true'] at h
          exact ⟨info, h.1, rfl, h.2.1.1, h.2.1.2, fun last hl => by rw [hlast] at hl; cases hl⟩
      | some last =>
          simp only [hfind, hlast, Bool.and_eq_true, Bool.not_eq_true'] at h
          refine ⟨info, h.1, rfl, h.2.1.1, h.2.1.2, fun last' hl => ?_⟩
          rw [hlast] at hl
          cases hl
          exact h.2.2

/-- A call that does not take its data in changes nothing. -/
theorem sendStreamData_ignored (h : w.takesData streamId = false) (data : Bytes) (fin : Bool) :
    w.sendStreamData streamId data fin = (w, []) := by
  unfold sendStreamData
  unfold takesData at h
  cases hterm : w.isTerminated with
  | true => rfl
  | false =>
      cases hfind : w.streams.find? streamId with
      | none => rfl
      | some info =>
          simp only [hterm, hfind, Bool.not_false, Bool.true_and, Bool.false_eq_true, if_false]
            at h ⊢
          by_cases hsend : isSendableStream info.isLocal info.isUnidirectional = true
          · rw [if_neg (by simp [hsend])]
            by_cases hdone : info.sendState.sendDone = true
            · rw [if_pos (sendDone_iff.1 hdone)]
            · rw [if_neg fun hd => hdone (sendDone_iff.2 hd)]
              cases hlast : info.pendingSends.getLast? with
              | none => simp [hsend, hdone, hlast] at h
              | some last =>
                  have hfin : last.fin = true := by simpa [hsend, hdone, hlast] using h
                  exact if_pos hfin
          · rw [if_pos (by simpa using hsend)]

/-- The entry with the data queued and nothing sent of it. -/
def queued (w : WtSessionInfo) (streamId : Nat) (info : WtStreamInfo) (data : Bytes) (fin : Bool) :
    WtSessionInfo :=
  w.setStream streamId { info with pendingSends := info.pendingSends ++ [⟨data, fin⟩] }

/-- Sending at once is queueing and sending the whole front of the queue. -/
theorem sendWhole_emits {info : WtStreamInfo} (hready : info.sendState.sendDone = false)
    (hempty : info.pendingSends = []) {data : Bytes}
    (hsession : w.bytesSent + data.length ≤ w.maxDataLocal)
    (hstream : info.bytesSent + data.length ≤ info.maxStreamDataLocal) (fin : Bool) :
    Emits permits config isServer (w.queued streamId info data fin)
      (w.sendWhole info streamId data fin) := by
  have hqueued : (w.queued streamId info data fin).streams.find? streamId =
      some { info with pendingSends := [⟨data, fin⟩] } := by
    unfold queued
    rw [hempty, find?_setStream_self]
    rfl
  have hstep : Trans permits config isServer (w.queued streamId info data fin) _ _ :=
    .sendFront hqueued hready rfl hsession hstream
  have hend : { w.queued streamId info data fin with
        bytesSent := (w.queued streamId info data fin).bytesSent + data.length }.setStream streamId
      { info with bytesSent := info.bytesSent + data.length, pendingSends := [],
                  sendState := if fin then .dataSent else info.sendState } =
      { w with bytesSent := w.bytesSent + data.length }.setStream streamId
        { info with bytesSent := info.bytesSent + data.length,
                    sendState := if fin then .dataSent else info.sendState } := by
    unfold queued
    simp only [setStream, OrdMap.insert_insert, hempty]
  have hsent := Emits.sent hstep
  rw [hend] at hsent
  unfold sendWhole
  dsimp only
  split_ifs with hf
  · subst hf
    exact hsent.andThen (maybeReleaseStream_emits _ streamId)
  · rw [if_neg hf] at hsent
    exact hsent

/-- WT_DATA_BLOCKED goes out once for a limit. -/
theorem announceSession_emits (w : WtSessionInfo) (p : Prop) [Decidable p] :
    Emits permits config isServer w
      ({ w with dataBlockedSent := w.dataBlockedSent || decide p },
        if p ∧ !w.dataBlockedSent then [.wtDataBlocked w.maxDataLocal] else []) := by
  cases hflag : w.dataBlockedSent with
  | true =>
      have hself : { w with dataBlockedSent := true || decide p } = w := by
        cases w
        simp only at hflag
        rw [hflag]
        rfl
      rw [hself]
      simp only [Bool.not_true, Bool.false_eq_true, and_false, if_false]
      exact .refl w
  | false =>
      by_cases hp : p
      · simp only [hp, Bool.not_false, and_self, if_true, decide_true, Bool.or_true]
        exact .sent .dataBlocked
      · have hself : { w with dataBlockedSent := false || decide p } = w := by
          cases w
          simp only at hflag
          simp only [hp, decide_false, Bool.or_false, hflag]
        rw [hself]
        simp only [hp, false_and, if_false]
        exact .refl w

/-- WT_STREAM_DATA_BLOCKED goes out once for a limit. -/
theorem announceStream_emits {info : WtStreamInfo} (hfind : w.streams.find? streamId = some info)
    (hready : info.sendState.sendDone = false) (hpending : info.pendingSends ≠ []) (p : Prop)
    [Decidable p] (hexhausted : p → info.bytesSent = info.maxStreamDataLocal) :
    Emits permits config isServer w
      (w.setStream streamId
        { info with streamDataBlockedSent := info.streamDataBlockedSent || decide p },
        if p ∧ !info.streamDataBlockedSent then
          [.wtStreamDataBlocked streamId info.maxStreamDataLocal]
        else []) := by
  cases hflag : info.streamDataBlockedSent with
  | true =>
      have hself : { info with streamDataBlockedSent := true || decide p } = info := by
        cases info
        simp only at hflag
        rw [hflag]
        rfl
      rw [hself, setStream_of_find? hfind]
      simp only [Bool.not_true, Bool.false_eq_true, and_false, if_false]
      exact .refl w
  | false =>
      by_cases hp : p
      · simp only [hp, Bool.not_false, and_self, if_true, decide_true, Bool.or_true]
        exact .sent (.streamDataBlocked hfind hready hpending (hexhausted hp))
      · have hself : { info with streamDataBlockedSent := false || decide p } = info := by
          cases info
          simp only at hflag
          simp only [hp, decide_false, Bool.or_false, hflag]
        rw [hself, setStream_of_find? hfind]
        simp only [hp, false_and, if_false]
        exact .refl w

/-- Sending under exhausted credit is queueing, sending the part the credit admits, and announcing
each exhausted limit once. -/
theorem sendBlocked_emits {info : WtStreamInfo} (hready : info.sendState.sendDone = false)
    (hempty : info.pendingSends = []) {data : Bytes}
    {sessionAvail streamAvail : Nat}
    (hshort : sendableBytes sessionAvail streamAvail < data.length)
    (hcredit : 0 < sendableBytes sessionAvail streamAvail →
      w.bytesSent + sendableBytes sessionAvail streamAvail ≤ w.maxDataLocal ∧
      info.bytesSent + sendableBytes sessionAvail streamAvail ≤ info.maxStreamDataLocal)
    (hexhausted : streamAvail ≤ sessionAvail →
      info.bytesSent + sendableBytes sessionAvail streamAvail = info.maxStreamDataLocal)
    (fin : Bool) :
    Emits permits config isServer (w.queued streamId info data fin)
      (w.sendBlocked info streamId data fin sessionAvail streamAvail) := by
  unfold sendBlocked
  dsimp only
  generalize sendableBytes sessionAvail streamAvail = size at hshort hcredit hexhausted ⊢
  have hqueued : (w.queued streamId info data fin).streams.find? streamId =
      some { info with pendingSends := [⟨data, fin⟩] } := by
    unfold queued
    rw [hempty, find?_setStream_self]
    rfl
  -- The entry once the prefix is sent.
  let partInfo : WtStreamInfo :=
    { info with bytesSent := info.bytesSent + size, pendingSends := [⟨data.drop size, fin⟩] }
  let part : WtSessionInfo :=
    { w with bytesSent := w.bytesSent + size }.setStream streamId partInfo
  have hfront : Emits permits config isServer (w.queued streamId info data fin)
      (part, if size > 0 then [.wtStream false streamId (data.take size)] else []) := by
    by_cases hpos : size > 0
    · rcases hcredit hpos with ⟨hsession, hstream⟩
      have hstep : Trans permits config isServer (w.queued streamId info data fin) _ _ :=
        .sendPart hqueued hready rfl hshort hsession hstream
      have hend : { w.queued streamId info data fin with
            bytesSent := (w.queued streamId info data fin).bytesSent + size }.setStream streamId
          partInfo = part := by
        simp only [part, queued, setStream, OrdMap.insert_insert]
      rw [if_pos hpos, ← hend]
      exact .sent hstep
    · have hzero : size = 0 := Nat.eq_zero_of_not_pos hpos
      have hself : part = w.queued streamId info data fin := by
        subst hzero
        simp [part, partInfo, queued, hempty]
      rw [if_neg hpos, hself]
      exact .refl _
  have hsession : Emits permits config isServer part _ :=
    announceSession_emits part (size < data.length ∧ sessionAvail ≤ streamAvail)
  let sessionFlag : Bool :=
    w.dataBlockedSent || decide (size < data.length ∧ sessionAvail ≤ streamAvail)
  let streamFlag : Bool :=
    info.streamDataBlockedSent || decide (size < data.length ∧ streamAvail ≤ sessionAvail)
  have hfind : { part with dataBlockedSent := sessionFlag }.streams.find? streamId =
      some partInfo := find?_setStream_self _ _ _
  have hstream : Emits permits config isServer { part with dataBlockedSent := sessionFlag } _ :=
    announceStream_emits hfind hready (List.cons_ne_nil _ _)
      (size < data.length ∧ streamAvail ≤ sessionAvail) fun h => hexhausted h.2
  have hall := (hfront.trans hsession).trans hstream
  have hend : { part with dataBlockedSent := sessionFlag }.setStream streamId
        { partInfo with streamDataBlockedSent := streamFlag } =
      { w with bytesSent := w.bytesSent + size, dataBlockedSent := sessionFlag }.setStream streamId
        { info with
          bytesSent := info.bytesSent + size
          streamDataBlockedSent := streamFlag
          pendingSends := info.pendingSends ++ [PendingSend.mk (data.drop size) fin] } := by
    simp only [part, partInfo, setStream, OrdMap.insert_insert, hempty, List.nil_append]
  rw [← hend]
  exact hall

/-- `send_stream_data` is a path that takes the data in and queues what the credit admits. -/
theorem sendStreamData_path (hwf : Wf isServer w) (streamId : Nat) (data : Bytes) (fin : Bool) :
    ∃ ls, Path (Trans permits config isServer) w ls (w.sendStreamData streamId data fin).1 ∧
      Label.sentOf ls = (w.sendStreamData streamId data fin).2 ∧ Label.receivedOf ls = [] ∧
      Label.acceptedOf ls = if w.takesData streamId then [(streamId, data, fin)] else [] := by
  cases htakes : w.takesData streamId with
  | false =>
      rw [sendStreamData_ignored htakes]
      exact ⟨[], Path.none w, rfl, rfl, rfl⟩
  | true =>
      rcases takesData_spec htakes with ⟨info, hterm, hfind, hsendable, hready, hfin⟩
      have hqueue : Trans permits config isServer w (.accepted streamId data fin)
          (w.queued streamId info data fin) := .enqueue data fin hfind hsendable hready hfin
      have hnot : ¬ (info.sendState = .resetSent ∨ info.sendState = .dataSent) :=
        fun h => absurd (sendDone_iff.2 h) (by simp [hready])
      -- Whatever follows the queueing only queues capsules.
      have hrest : Emits permits config isServer (w.queued streamId info data fin)
          (w.sendStreamData streamId data fin) := by
        unfold sendStreamData
        rw [if_neg (by simp [hterm]), hfind]
        dsimp only
        rw [if_neg (by simp [hsendable]), if_neg hnot]
        cases hlast : info.pendingSends.getLast? with
        | some last =>
            dsimp only
            rw [if_neg (by simp [hfin last hlast])]
            exact .refl _
        | none =>
            have hempty : info.pendingSends = [] := List.getLast?_eq_none_iff.1 hlast
            have hcredit := @sendable_le w.bytesSent w.maxDataLocal info.bytesSent
              info.maxStreamDataLocal data.length
            dsimp only at hcredit ⊢
            split_ifs with hshort
            · exact sendBlocked_emits hready hempty hshort hcredit.2
                (stream_exhausted (hwf.stream hfind).sent_le hshort) fin
            · have hsession := hwf.sent_le
              have hstream := (hwf.stream hfind).sent_le
              have hwhole : sendableBytes (availableCredit w.bytesSent w.maxDataLocal data.length)
                  (availableCredit info.bytesSent info.maxStreamDataLocal data.length) =
                  data.length := by omega
              rw [hwhole] at hcredit
              by_cases hpos : 0 < data.length
              · exact sendWhole_emits hready hempty (hcredit.2 hpos).1 (hcredit.2 hpos).2 fin
              · -- An empty send needs no credit.
                exact sendWhole_emits hready hempty (by omega) (by omega) fin
      rcases hrest with ⟨ls, hpath, hsent, hrecv, hacc⟩
      refine ⟨.accepted streamId data fin :: ls, ⟨_, hqueue, hpath⟩, hsent, hrecv, ?_⟩
      rw [if_pos rfl]
      exact congrArg (List.cons _) hacc

end SendData

/-! ## Received capsules -/

/-- There is a path that starts with receiving `r` and pushing `events`, queues the capsules of `q`
and ends in its entry. -/
def Answers (permits : Permits) (config : H2SessionConfig) (isServer : Bool) (w : WtSessionInfo)
    (r : Received) (events : List H2Event) (q : Queued) : Prop :=
  ∃ ls, Path (Trans permits config isServer) w (.received r events :: ls) q.1 ∧
    Label.sentOf ls = q.2 ∧ Label.receivedOf ls = [] ∧ Label.acceptedOf ls = []

section Answers

variable {permits : Permits} {config : H2SessionConfig} {isServer : Bool} {w w' : WtSessionInfo}
  {streamId : Nat} {r : Received} {events : List H2Event}

theorem Answers.of {q : Queued} (h : Trans permits config isServer w (.received r events) w')
    (h' : Emits permits config isServer w' q) : Answers permits config isServer w r events q := by
  rcases h' with ⟨ls, hpath, hsent, hrecv, hacc⟩
  exact ⟨ls, ⟨w', h, hpath⟩, hsent, hrecv, hacc⟩

theorem Answers.only (h : Trans permits config isServer w (.received r events) w') :
    Answers permits config isServer w r events (w', []) := .of h (.refl w')

theorem maybeSendMaxData_setStream (w : WtSessionInfo) (config : H2SessionConfig) (streamId : Nat)
    (info : WtStreamInfo) :
    (w.setStream streamId info).maybeSendMaxData config =
      ((w.maybeSendMaxData config).1.setStream streamId info, (w.maybeSendMaxData config).2) := by
  unfold maybeSendMaxData
  simp only [setStream_isTerminated, setStream_bytesReceived, setStream_maxDataRemote]
  split_ifs <;> rfl

/-- Replenishing a stream does not look at its receive state. -/
theorem maybeSendMaxStreamData_recvState (w : WtSessionInfo) (config : H2SessionConfig)
    (streamId : Nat) (info : WtStreamInfo) :
    ∃ (info' : WtStreamInfo) (cs : List Capsule), ∀ state,
      (w.setStream streamId { info with recvState := state }).maybeSendMaxStreamData config
        streamId = (w.setStream streamId { info' with recvState := state }, cs) := by
  unfold maybeSendMaxStreamData
  simp only [find?_setStream_self, setStream_isTerminated, setStream_sentStopSendingStreamIds,
    setStream_setStream]
  split_ifs
  · exact ⟨info, [], fun _ => rfl⟩
  · exact ⟨info, [], fun _ => rfl⟩
  · exact ⟨info, [], fun _ => rfl⟩
  · exact ⟨info, [], fun _ => rfl⟩
  · exact ⟨info, [], fun _ => rfl⟩
  · exact ⟨{ info with maxStreamDataRemote :=
        replenishedLimit info.bytesReceived config.wtInitialMaxStreamData }, _, fun _ => rfl⟩

/-- Marking the receiving half finished before or after replenishing comes to the same. -/
theorem acceptStreamData_fin (w : WtSessionInfo) (config : H2SessionConfig) (streamId : Nat)
    (info : WtStreamInfo) (size : Nat) :
    w.acceptStreamData config streamId info true size =
      (((w.countReceived streamId { info with recvState := .dataRecvd } size).maybeSendMaxData
        config).andThen (maybeSendMaxStreamData config streamId)).andThen
          (maybeReleaseStream streamId) := by
  have hcount : ∀ state, w.countReceived streamId { info with recvState := state } size =
      { w with bytesReceived := w.bytesReceived + size }.setStream streamId
        { { info with bytesReceived := info.bytesReceived + size } with recvState := state } :=
    fun _ => rfl
  have hself : w.countReceived streamId info size =
      w.countReceived streamId { info with recvState := info.recvState } size := rfl
  unfold acceptStreamData
  rw [if_pos rfl, hself, hcount, hcount, maybeSendMaxData_setStream, maybeSendMaxData_setStream]
  generalize maybeSendMaxData config { w with bytesReceived := w.bytesReceived + size } = q
  rcases maybeSendMaxStreamData_recvState q.1 config streamId
    { info with bytesReceived := info.bytesReceived + size } with ⟨info', cs, hstep⟩
  simp only [Queued.andThen, hstep, finishRecv, find?_setStream_self, setStream_setStream]

theorem acceptStreamData_setStream (w : WtSessionInfo) (config : H2SessionConfig) (streamId : Nat)
    (old info : WtStreamInfo) (fin : Bool) (size : Nat) :
    (w.setStream streamId old).acceptStreamData config streamId info fin size =
      w.acceptStreamData config streamId info fin size := by
  have hcount : (w.setStream streamId old).countReceived streamId info size =
      w.countReceived streamId info size := by
    simp only [countReceived, setStream, OrdMap.insert_insert]
  simp only [acceptStreamData, hcount]

/-- Counting stream data, replenishing and finishing is the change `recvStream` and what it
queues. -/
theorem acceptStreamData_answers {info : WtStreamInfo} {fin : Bool} {data : Bytes}
    (hreceivable : isReceivableDataCapsule streamId isServer = true)
    (hreaches : Reaches permits config isServer w streamId info)
    (hstate : data ≠ [] → info.recvState.recvDone = false)
    (hlate : fin = true → info.recvState.recvDone = true → permits.lateFin streamId)
    (hsession : w.bytesReceived + data.length ≤ w.maxDataRemote)
    (hstream : info.bytesReceived + data.length ≤ info.maxStreamDataRemote) :
    Answers permits config isServer w (.stream fin streamId data) (streamEvents fin streamId data)
      (w.acceptStreamData config streamId info fin data.length) := by
  have hstep : Trans permits config isServer w
      (.received (.stream fin streamId data) (streamEvents fin streamId data)) _ :=
    .recvStream hreceivable hreaches hstate hlate hsession hstream
  have hreplenish : ∀ w' : WtSessionInfo, Emits permits config isServer w'
      ((w'.maybeSendMaxData config).andThen (maybeSendMaxStreamData config streamId)) :=
    fun w' => (maybeSendMaxData_emits w').andThen (maybeSendMaxStreamData_emits _ hreceivable)
  cases fin with
  | false => exact .of hstep (hreplenish _)
  | true =>
      rw [acceptStreamData_fin]
      exact .of hstep ((hreplenish _).andThen (maybeReleaseStream_emits _ streamId))

theorem judgeStreamData_answers {info : WtStreamInfo} {old : WtSessionInfo} {fin : Bool}
    {data : Bytes} {before after : List H2Event} {q : Queued}
    (hreceivable : isReceivableDataCapsule streamId isServer = true)
    (hreaches : Reaches permits config isServer w streamId info)
    (hlate : fin = true → data = [] → info.recvState.recvDone = true → permits.lateFin streamId)
    (hold : old.bytesReceived = w.bytesReceived ∧ old.maxDataRemote = w.maxDataRemote ∧
      old.acceptStreamData config streamId info fin data.length =
        w.acceptStreamData config streamId info fin data.length)
    (h : old.judgeStreamData config info streamId fin data = .accept before q after) :
    Answers permits config isServer w (.stream fin streamId data) (before ++ after) q := by
  unfold judgeStreamData at h
  rw [hold.1, hold.2.1, hold.2.2] at h
  by_cases hstate : data.length > 0 ∧ info.recvState.recvDone = true
  · rw [if_pos hstate] at h
    cases h
  by_cases hcredit : w.bytesReceived + data.length > w.maxDataRemote ∨
      info.bytesReceived + data.length > info.maxStreamDataRemote
  · rw [if_neg hstate, if_pos hcredit] at h
    cases h
  rw [if_neg hstate, if_neg hcredit] at h
  cases h
  rw [List.append_nil]
  have hempty : info.recvState.recvDone = true → data = [] := fun hdone =>
    List.length_eq_zero_iff.1 (Nat.eq_zero_of_not_pos fun hpos => hstate ⟨hpos, hdone⟩)
  refine acceptStreamData_answers hreceivable hreaches ?_ ?_ ?_ ?_
  · intro hne
    exact Bool.eq_false_iff.2 fun hdone => hne (hempty hdone)
  · exact fun hfin hdone => hlate hfin (hempty hdone) hdone
  · exact not_lt.1 fun hlt => hcredit (Or.inl hlt)
  · exact not_lt.1 fun hlt => hcredit (Or.inr hlt)

theorem judgeStream_answers {fin : Bool} {data : Bytes} {before after : List H2Event} {q : Queued}
    (hadmits : permits.Admits isServer w (.stream fin streamId data))
    (h : w.judgeStream config isServer fin streamId data = .accept before q after) :
    Answers permits config isServer w (.stream fin streamId data) (before ++ after) q := by
  unfold judgeStream at h
  cases hreceivable : isReceivableDataCapsule streamId isServer with
  | false =>
      rw [hreceivable] at h
      cases h
  | true =>
      rw [hreceivable, if_neg (by decide)] at h
      cases hfind : w.streams.find? streamId with
      | some info =>
          rw [hfind] at h
          refine judgeStreamData_answers hreceivable (.existing hfind) ?_ ⟨rfl, rfl, rfl⟩ h
          intro hfin hdata hdone
          exact hadmits.late streamId info (by rw [hfin, hdata]) hfind hdone
      | none =>
          rw [hfind] at h
          dsimp only at h
          by_cases hreleased : streamId ∈ w.releasedStreamIds
          · rw [if_pos hreleased] at h
            by_cases hempty : data.length = 0
            · rw [if_pos hempty] at h
              cases h
              exact .only (.recvNothing ⟨List.length_eq_zero_iff.1 hempty, hfind, hreleased⟩)
            · rw [if_neg hempty] at h
              cases h
          · rw [if_neg hreleased] at h
            cases hlimit : w.incomingStreamExceedsLimit streamId with
            | true =>
                rw [hlimit] at h
                cases h
            | false =>
                rw [hlimit, if_neg (by decide)] at h
                generalize hinfo : w.newPeerStream config isServer streamId = info at h
                have hreaches : Reaches permits config isServer w streamId info :=
                  hinfo ▸ .created (hadmits.create streamId rfl hfind hreleased) hfind hreleased
                    hlimit
                have hfresh : info.recvState.recvDone = false := by
                  rw [← hinfo, newPeerStream_recvState]
                  rfl
                -- The entry is written first, and the write of the counted entry covers it.
                have hold := acceptStreamData_setStream w config streamId info info fin data.length
                exact judgeStreamData_answers hreceivable hreaches
                  (fun _ _ hdone => absurd hdone (by simp [hfresh]))
                  ⟨setStream_bytesReceived w streamId info, setStream_maxDataRemote w streamId info,
                    hold⟩ h

theorem judgeReset_answers {errorCode reliableSize : Nat} {before after : List H2Event} {q : Queued}
    (hadmits : permits.Admits isServer w (.resetStream streamId errorCode reliableSize))
    (h : w.judgeReset config isServer streamId errorCode reliableSize = .accept before q after) :
    Answers permits config isServer w (.resetStream streamId errorCode reliableSize)
      (before ++ after) q := by
  unfold judgeReset at h
  dsimp only at h
  cases hreceivable : isReceivableDataCapsule streamId isServer with
  | false =>
      rw [hreceivable] at h
      cases h
  | true =>
      rw [hreceivable, if_neg (by decide)] at h
      cases hfind : w.streams.find? streamId with
      | some info =>
          rw [hfind] at h
          dsimp only at h
          cases hdone : info.recvState.recvDone with
          | true =>
              rw [hdone] at h
              cases h
          | false =>
              rw [hdone, if_neg (by decide)] at h
              by_cases hsize : reliableSize = info.bytesReceived
              · rw [if_neg (not_not.2 hsize)] at h
                cases h
                subst hsize
                exact .of (.recvReset hreceivable (.existing hfind) hdone)
                  (maybeReleaseStream_emits _ streamId)
              · rw [if_pos hsize] at h
                cases h
      | none =>
          rw [hfind] at h
          dsimp only at h
          by_cases hreleased : streamId ∈ w.releasedStreamIds
          · rw [if_pos hreleased] at h
            cases h
          rw [if_neg hreleased] at h
          by_cases hsize : reliableSize > 0
          · rw [if_pos hsize] at h
            cases h
          rw [if_neg hsize] at h
          cases hlimit : w.incomingStreamExceedsLimit streamId with
          | true =>
              rw [hlimit] at h
              cases h
          | false =>
              rw [hlimit, if_neg (by decide)] at h
              cases h
              have hreliable : reliableSize =
                  (w.newPeerStream config isServer streamId).bytesReceived := by
                rw [newPeerStream_bytesReceived]
                omega
              rw [hreliable]
              exact .of (.recvReset hreceivable
                (.created (hadmits.create streamId rfl hfind hreleased) hfind hreleased hlimit)
                (by rw [newPeerStream_recvState]; rfl)) (maybeReleaseStream_emits _ streamId)

theorem judgeStopSending_answers {errorCode : Nat} {before after : List H2Event} {q : Queued}
    (hpermit : isReceivableFlowCapsule streamId isServer = true → permits.reset streamId)
    (h : w.judgeStopSending isServer streamId errorCode = .accept before q after) :
    Answers permits config isServer w (.stopSending streamId errorCode) (before ++ after) q := by
  unfold judgeStopSending at h
  dsimp only at h
  cases hreceivable : isReceivableFlowCapsule streamId isServer with
  | false =>
      rw [hreceivable] at h
      cases h
  | true =>
      rw [hreceivable, if_neg (by decide)] at h
      cases hfirst : w.hasReceivedStopSending streamId with
      | true =>
          rw [hfirst] at h
          cases h
      | false =>
          rw [hfirst, if_neg (by decide)] at h
          cases hfind : w.streams.find? streamId with
          | some info =>
              rw [hfind] at h
              cases h
              exact .of (.recvStop hreceivable hfirst hfind)
                (resetStream_emits _ (hpermit hreceivable) _)
          | none =>
              rw [hfind] at h
              have hstep : Trans permits config isServer w
                  (.received (.stopSending streamId errorCode) _) (w.recordStopSending streamId) :=
                .recvStopUnknown hreceivable hfirst hfind
              dsimp only at h
              by_cases hmem : streamId ∈ (w.recordStopSending streamId).receivedStopSendingStreamIds
              · rw [if_pos hmem] at h hstep
                cases h
                exact .only hstep
              · rw [if_neg hmem] at h hstep
                cases h
                -- A full record leaves the entry as it is.
                have hself : w.recordStopSending streamId = w := by
                  unfold recordStopSending at hmem ⊢
                  split_ifs at hmem ⊢
                  · exact absurd (Finset.mem_insert_self _ _) hmem
                  · rfl
                rw [hself] at hstep
                exact .only hstep

theorem le_of_any_false {received : Option Nat} {value : Nat}
    (h : ¬ (received.any fun old => decide (value < old)) = true) :
    ∀ old, received = some old → old ≤ value := by
  intro old hold
  rw [hold, Option.any_some, decide_eq_true_eq] at h
  exact not_lt.1 h

theorem judgeMaxData_answers (hwf : Wf isServer w) {maxData : Nat} {before after : List H2Event}
    {q : Queued} (h : w.judgeMaxData maxData = .accept before q after) :
    Answers permits config isServer w (.maxData maxData) (before ++ after) q := by
  unfold judgeMaxData at h
  by_cases hdec : (w.receivedMaxData.any fun received => decide (maxData < received)) = true
  · rw [if_pos hdec] at h
    cases h
  rw [if_neg hdec] at h
  have hstep : Trans permits config isServer w (.received (.maxData maxData) []) _ :=
    .recvMaxData (le_of_any_false hdec)
  have hwf' := hstep.wf hwf
  by_cases hgt : maxData > w.maxDataLocal
  · rw [if_pos hgt] at h hstep hwf'
    cases h
    exact .of hstep (flushPendingSends_emits hwf')
  · rw [if_neg hgt] at h hstep
    cases h
    exact .only hstep

theorem judgeMaxStreamData_answers (hwf : Wf isServer w) {maxData : Nat}
    {before after : List H2Event} {q : Queued}
    (h : w.judgeMaxStreamData isServer streamId maxData = .accept before q after) :
    Answers permits config isServer w (.maxStreamData streamId maxData) (before ++ after) q := by
  unfold judgeMaxStreamData at h
  cases hreceivable : isReceivableFlowCapsule streamId isServer with
  | false =>
      rw [hreceivable] at h
      cases h
  | true =>
      rw [hreceivable, if_neg (by decide)] at h
      cases hstop : w.hasReceivedStopSending streamId with
      | true =>
          rw [hstop] at h
          cases h
      | false =>
          rw [hstop, if_neg (by decide)] at h
          by_cases hdec : ((SessionScope.previousMaxStreamData isServer w streamId).any
              fun previous => decide (maxData < previous)) = true
          · rw [if_pos hdec] at h
            cases h
          rw [if_neg hdec] at h
          have hrise := le_of_any_false hdec
          cases hfind : w.streams.find? streamId with
          | none =>
              rw [hfind] at h
              cases h
              exact .only (.recvMaxStreamDataUnknown hreceivable hstop hrise hfind)
          | some info =>
              have hstep : Trans permits config isServer w
                  (.received (.maxStreamData streamId maxData) []) _ :=
                .recvMaxStreamData hreceivable hstop hrise hfind
              have hwf' := hstep.wf hwf
              rw [hfind] at h
              dsimp only at h
              by_cases hgt : maxData > info.maxStreamDataLocal
              · rw [if_pos hgt] at h hstep hwf'
                cases h
                exact .of hstep (flushPendingSends_emits hwf')
              · rw [if_neg hgt] at h hstep
                cases h
                exact .only hstep

theorem judgeMaxStreams_answers {isBidi : Bool} {maxStreams : Nat} {before after : List H2Event}
    {q : Queued} (h : w.judgeMaxStreams isBidi maxStreams = .accept before q after) :
    Answers permits config isServer w (.maxStreams isBidi maxStreams) (before ++ after) q := by
  unfold judgeMaxStreams at h
  by_cases hlimit : maxStreams > kMaxStreamsLimit
  · rw [if_pos hlimit] at h
    cases h
  rw [if_neg hlimit] at h
  have hle : maxStreams ≤ kMaxStreamsLimit := not_lt.1 hlimit
  cases isBidi with
  | true =>
      simp only [if_true] at h
      by_cases hdec :
          (w.receivedMaxStreamsBidi.any fun received => decide (maxStreams < received)) = true
      · rw [if_pos hdec] at h
        cases h
      rw [if_neg hdec] at h
      have hstep : Trans permits config isServer w (.received (.maxStreams true maxStreams) []) _ :=
        .recvMaxStreamsBidi hle (le_of_any_false hdec)
      by_cases hgt : maxStreams > w.maxStreamsBidiLocal
      · rw [if_pos hgt] at h hstep
        cases h
        exact .only hstep
      · rw [if_neg hgt] at h hstep
        cases h
        exact .only hstep
  | false =>
      simp only [Bool.false_eq_true, if_false] at h
      by_cases hdec : (w.receivedMaxStreamsUni.any fun received => decide (maxStreams < received)) =
          true
      · rw [if_pos hdec] at h
        cases h
      rw [if_neg hdec] at h
      have hstep :
          Trans permits config isServer w (.received (.maxStreams false maxStreams) []) _ :=
        .recvMaxStreamsUni hle (le_of_any_false hdec)
      by_cases hgt : maxStreams > w.maxStreamsUniLocal
      · rw [if_pos hgt] at h hstep
        cases h
        exact .only hstep
      · rw [if_neg hgt] at h hstep
        cases h
        exact .only hstep

/-- An accepted capsule is a path that starts with receiving it. -/
theorem judge_answers (hwf : Wf isServer w)
    (hadmits : permits.Admits isServer w r) {before after : List H2Event} {q : Queued}
    (h : w.judge config isServer r = .accept before q after) :
    Answers permits config isServer w r (before ++ after) q := by
  cases r with
  | stream fin streamId data => exact judgeStream_answers hadmits h
  | resetStream streamId errorCode reliableSize => exact judgeReset_answers hadmits h
  | stopSending streamId errorCode =>
      exact judgeStopSending_answers (hadmits.reset streamId errorCode rfl) h
  | maxData maxData => exact judgeMaxData_answers hwf h
  | maxStreamData streamId maxData => exact judgeMaxStreamData_answers hwf h
  | maxStreams isBidi maxStreams => exact judgeMaxStreams_answers h
  | streamDataBlocked streamId =>
      simp only [judge, judgeStreamDataBlocked] at h
      split_ifs at h
      all_goals
        cases h
        try exact .only (.recvNothing trivial)
  | streamsBlocked maxStreams =>
      simp only [judge] at h
      split_ifs at h
      all_goals
        cases h
        try exact .only (.recvNothing trivial)
  | datagram data =>
      cases h
      exact .only (.recvNothing trivial)
  | closeSession errorCode message => cases h
  | drainSession =>
      cases h
      exact .only (.recvNothing trivial)
  | ignored =>
      cases h
      exact .only (.recvNothing trivial)

end Answers

end WtSessionInfo

end H2
end WebTransport
