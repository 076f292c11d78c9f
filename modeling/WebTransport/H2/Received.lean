import WebTransport.H2.Capsules

/-!
# H2.Received — what a capsule says, apart from what it does

Every handler first reads the fields of its payload and then acts on the session entry.
`readPayload` is the first half as a function of the bytes alone, `receive` the second half as a
function of the fields read:

* `handleCapsule_eq`     : the handlers are `readPayload` followed by `receive`;
* `receive_eq`           : `receive` carries out a `Verdict` computed from the entry alone;
* `readPayload_fits`     : what is read from any bytes is in the range of its varints;
* `readPayload_payload`  : the payload this code writes is read back as the capsule it came from.
-/

namespace WebTransport
namespace H2

open Bindings

/-- A received capsule whose payload was read completely.  `ignored` are the capsules that only
have to be well-formed. -/
inductive Received
  | stream (fin : Bool) (streamId : Nat) (data : Bytes)
  | resetStream (streamId errorCode reliableSize : Nat)
  | stopSending (streamId errorCode : Nat)
  | maxData (maxData : Nat)
  | maxStreamData (streamId maxData : Nat)
  | maxStreams (isBidi : Bool) (maxStreams : Nat)
  | streamDataBlocked (streamId : Nat)
  | streamsBlocked (maxStreams : Nat)
  | datagram (data : Bytes)
  | closeSession (errorCode : Nat) (message : Bytes)
  | drainSession
  | ignored
  deriving DecidableEq

/-- The outcome of reading a payload. -/
inductive Reading
  | malformed
  | wtError (message : String)
  | received (r : Received)
  deriving DecidableEq

namespace Reading

/-- `read_capsule_varint` without the session. -/
def varint (data : Bytes) (next : Nat → Nat → Reading) : Reading :=
  match decodeQuicVarint data with
  | none => .malformed
  | some (value, len) => next value len

/-- `verify_capsule_payload_fully_read` without the session. -/
def verifyEnd (offset length : Nat) (next : Reading) : Reading :=
  if offset = length then next else .malformed

end Reading

/-- The two fields of WT_RESET_STREAM, WT_STOP_SENDING and the like are read in this order, with
the error code checked where its handler checks it. -/
def readPayload (type : Nat) (payload : Bytes) : Reading :=
  match CapsuleType.ofNat? type with
  | some .wtStream => .varint payload fun sid n1 => .received (.stream false sid (payload.drop n1))
  | some .wtStreamFin => .varint payload fun sid n1 => .received (.stream true sid (payload.drop n1))
  | some .wtResetStream =>
      .varint payload fun sid n1 =>
      .varint (payload.drop n1) fun code n2 =>
        if code > kMaxApplicationErrorCode then
          .wtError "WT_RESET_STREAM error code exceeds 0xffffffff"
        else
          .varint (payload.drop (n1 + n2)) fun size n3 =>
          .verifyEnd (n1 + n2 + n3) payload.length (.received (.resetStream sid code size))
  | some .wtStopSending =>
      .varint payload fun sid n1 =>
      .varint (payload.drop n1) fun code n2 =>
      .verifyEnd (n1 + n2) payload.length <|
        if code > kMaxApplicationErrorCode then
          .wtError "WT_STOP_SENDING error code exceeds 0xffffffff"
        else .received (.stopSending sid code)
  | some .wtMaxData =>
      .varint payload fun value n1 => .verifyEnd n1 payload.length (.received (.maxData value))
  | some .wtMaxStreamData =>
      .varint payload fun sid n1 =>
      .varint (payload.drop n1) fun value n2 =>
      .verifyEnd (n1 + n2) payload.length (.received (.maxStreamData sid value))
  | some .wtMaxStreamsBidi =>
      .varint payload fun value n1 =>
      .verifyEnd n1 payload.length (.received (.maxStreams true value))
  | some .wtMaxStreamsUni =>
      .varint payload fun value n1 =>
      .verifyEnd n1 payload.length (.received (.maxStreams false value))
  | some .wtStreamDataBlocked =>
      .varint payload fun sid n1 =>
      .varint (payload.drop n1) fun _ n2 =>
      .verifyEnd (n1 + n2) payload.length (.received (.streamDataBlocked sid))
  | some .wtStreamsBlockedBidi =>
      .varint payload fun value n1 =>
      .verifyEnd n1 payload.length (.received (.streamsBlocked value))
  | some .wtStreamsBlockedUni =>
      .varint payload fun value n1 =>
      .verifyEnd n1 payload.length (.received (.streamsBlocked value))
  | some .wtDataBlocked =>
      .varint payload fun _ n1 => .verifyEnd n1 payload.length (.received .ignored)
  | some .datagram => .received (.datagram payload)
  | some .wtCloseSession =>
      if payload.length < 4 then .malformed
      else if (payload.drop 4).length > kMaxApplicationErrorMessageBytes then
        .wtError "WT_CLOSE_SESSION message exceeds 1024 bytes"
      else if (payload.drop 4).length > 0 ∧ !isValidUtf8 (payload.drop 4) then
        .wtError "WT_CLOSE_SESSION message is not valid UTF-8"
      else .received (.closeSession (SessionScope.readErrorCode payload) (payload.drop 4))
  | some .wtDrainSession => .verifyEnd 0 payload.length (.received .drainSession)
  | some .padding => .received .ignored
  | none => .received .ignored

/-! ## The range of what is read -/

/-- The values read from varints are in their range, and the error codes were checked. -/
def Received.Fits : Received → Prop
  | .stream _ streamId _ => streamId ≤ kMaxQuicVarint
  | .resetStream streamId errorCode reliableSize =>
      streamId ≤ kMaxQuicVarint ∧ errorCode ≤ kMaxApplicationErrorCode ∧
        reliableSize ≤ kMaxQuicVarint
  | .stopSending streamId errorCode =>
      streamId ≤ kMaxQuicVarint ∧ errorCode ≤ kMaxApplicationErrorCode
  | .maxData value => value ≤ kMaxQuicVarint
  | .maxStreamData streamId value => streamId ≤ kMaxQuicVarint ∧ value ≤ kMaxQuicVarint
  | .maxStreams _ value => value ≤ kMaxQuicVarint
  | .streamDataBlocked streamId => streamId ≤ kMaxQuicVarint
  | .streamsBlocked value => value ≤ kMaxQuicVarint
  | _ => True

def Reading.Fits : Reading → Prop
  | .received r => r.Fits
  | _ => True

namespace Reading

theorem varint_fits {data : Bytes} {next : Nat → Nat → Reading}
    (h : ∀ value len, value ≤ kMaxQuicVarint → (next value len).Fits) : (varint data next).Fits := by
  unfold varint
  cases hdecode : decodeQuicVarint data with
  | none => trivial
  | some r => exact h r.1 r.2 (decodeQuicVarint_spec hdecode).2.2

theorem verifyEnd_fits {offset length : Nat} {next : Reading} (h : next.Fits) :
    (verifyEnd offset length next).Fits := by
  unfold verifyEnd
  split_ifs
  · exact h
  · trivial

end Reading

/-- Whatever the bytes are, what is read from them is in range. -/
theorem readPayload_fits (type : Nat) (payload : Bytes) : (readPayload type payload).Fits := by
  unfold readPayload
  cases CapsuleType.ofNat? type with
  | none => trivial
  | some t =>
      cases t with
      | datagram => trivial
      | padding => trivial
      | wtResetStream =>
          refine Reading.varint_fits fun sid n1 hsid => Reading.varint_fits fun code n2 _ => ?_
          split_ifs with hcode
          · trivial
          · exact Reading.varint_fits fun size n3 hsize =>
              Reading.verifyEnd_fits ⟨hsid, not_lt.1 hcode, hsize⟩
      | wtStopSending =>
          refine Reading.varint_fits fun sid n1 hsid => Reading.varint_fits fun code n2 _ =>
            Reading.verifyEnd_fits ?_
          split_ifs with hcode
          · trivial
          · exact ⟨hsid, not_lt.1 hcode⟩
      | wtStreamFin => exact Reading.varint_fits fun sid n1 hsid => hsid
      | wtStream => exact Reading.varint_fits fun sid n1 hsid => hsid
      | wtMaxData =>
          exact Reading.varint_fits fun value n1 hvalue => Reading.verifyEnd_fits hvalue
      | wtMaxStreamData =>
          exact Reading.varint_fits fun sid n1 hsid => Reading.varint_fits fun value n2 hvalue =>
            Reading.verifyEnd_fits ⟨hsid, hvalue⟩
      | wtMaxStreamsBidi =>
          exact Reading.varint_fits fun value n1 hvalue => Reading.verifyEnd_fits hvalue
      | wtMaxStreamsUni =>
          exact Reading.varint_fits fun value n1 hvalue => Reading.verifyEnd_fits hvalue
      | wtDataBlocked => exact Reading.varint_fits fun value n1 _ => Reading.verifyEnd_fits trivial
      | wtStreamDataBlocked =>
          exact Reading.varint_fits fun sid n1 hsid => Reading.varint_fits fun _ n2 _ =>
            Reading.verifyEnd_fits hsid
      | wtStreamsBlockedBidi =>
          exact Reading.varint_fits fun value n1 hvalue => Reading.verifyEnd_fits hvalue
      | wtStreamsBlockedUni =>
          exact Reading.varint_fits fun value n1 hvalue => Reading.verifyEnd_fits hvalue
      | wtCloseSession =>
          dsimp only
          split_ifs <;> trivial
      | wtDrainSession => exact Reading.verifyEnd_fits trivial

namespace SessionScope

/-! ## Acting on the fields -/

/-- `handle_wt_stream` behind the reading of the stream id. -/
def receiveStream (sc : SessionScope) (w : WtSessionInfo) (fin : Bool) (streamId : Nat)
    (data : Bytes) : SessionScope :=
  if !isReceivableDataCapsule streamId sc.isServer then
    sc.reportStreamStateError streamId "WT_STREAM received for local send-only stream"
  else
    match w.streams.find? streamId with
    | some info => sc.recvStreamData w info streamId fin data
    | none =>
        if streamId ∈ w.releasedStreamIds then
          if data.length = 0 then sc
          else sc.reportStreamStateError streamId "WT_STREAM received for released stream"
        else if w.incomingStreamExceedsLimit streamId then
          sc.reportRecvFlowControlError streamId "peer exceeded Maximum Streams limit"
        else
          sc.recvStreamData (w.setStream streamId (w.newPeerStream sc.config sc.isServer streamId))
            (w.newPeerStream sc.config sc.isServer streamId) streamId fin data

/-- What the handlers do to the session entry `w` once the payload is read. -/
def receive (sc : SessionScope) (w : WtSessionInfo) : Received → SessionScope
  | .stream fin streamId data => sc.receiveStream w fin streamId data
  | .resetStream streamId errorCode reliableSize => sc.recvReset w streamId errorCode reliableSize
  | .stopSending streamId errorCode =>
      if !isReceivableFlowCapsule streamId sc.isServer then
        sc.reportStreamStateError streamId "WT_STOP_SENDING received for local receive-only stream"
      else sc.recvStopSending w streamId errorCode
  | .maxData maxData => sc.recvMaxData w maxData
  | .maxStreamData streamId maxData => sc.recvMaxStreamData w streamId maxData
  | .maxStreams isBidi maxStreams => sc.recvMaxStreams w isBidi maxStreams
  | .streamDataBlocked streamId => sc.recvStreamDataBlocked w streamId
  | .streamsBlocked maxStreams =>
      if maxStreams > kMaxStreamsLimit then
        sc.reportFlowControlError "WT_STREAMS_BLOCKED exceeds 2^60"
      else sc
  | .datagram data => sc.pushEvent { type := .datagram, data := data }
  | .closeSession errorCode message =>
      (sc.pushEvent { type := .sessionClosed, errorCode := errorCode,
                      errorMessage := message }).eraseSession
  | .drainSession => sc.pushEvent { type := .sessionDraining }
  | .ignored => sc

/-- What the handlers do with a reading. -/
def react (sc : SessionScope) (w : WtSessionInfo) : Reading → SessionScope
  | .malformed => sc.resetStreamForMalformedCapsule
  | .wtError message => sc.reportWtError message
  | .received r => sc.receive w r

/-! ## Reading and acting is handling -/

variable {sc : SessionScope} {w : WtSessionInfo}

theorem readCapsuleVarint_eq (data : Bytes) (next : Nat → Nat → SessionScope)
    (next' : Nat → Nat → Reading) (h : ∀ value len, next value len = sc.react w (next' value len)) :
    sc.readCapsuleVarint data next = sc.react w (.varint data next') := by
  unfold readCapsuleVarint Reading.varint
  cases decodeQuicVarint data with
  | none => rfl
  | some r => exact h r.1 r.2

theorem verifyCapsulePayloadFullyRead_eq (offset length : Nat) {next : SessionScope}
    {next' : Reading} (h : next = sc.react w next') :
    sc.verifyCapsulePayloadFullyRead offset length next =
      sc.react w (.verifyEnd offset length next') := by
  unfold verifyCapsulePayloadFullyRead Reading.verifyEnd
  split_ifs
  · exact h
  · rfl

/-- On a session that has an entry the handlers read the payload and act on what they read. -/
theorem handleCapsule_eq (h : sc.entry = some w) (type : Nat) (payload : Bytes) :
    sc.handleCapsule type payload = sc.react w (readPayload type payload) := by
  unfold handleCapsule readPayload
  cases CapsuleType.ofNat? type with
  | none => rfl
  | some t =>
      cases t with
      | datagram => rfl
      | padding => rfl
      | wtResetStream =>
          refine readCapsuleVarint_eq _ _ _ fun sid n1 => readCapsuleVarint_eq _ _ _ fun code n2 => ?_
          -- The code is checked before the reliable size is read.
          by_cases hcode : code > kMaxApplicationErrorCode
          · simp only [hcode, if_true, react]
          · rw [if_neg hcode, if_neg hcode]
            refine readCapsuleVarint_eq _ _ _ fun size n3 => verifyCapsulePayloadFullyRead_eq _ _ ?_
            simp only [h, react, receive]
      | wtStopSending =>
          refine readCapsuleVarint_eq _ _ _ fun sid n1 => readCapsuleVarint_eq _ _ _ fun code n2 =>
            verifyCapsulePayloadFullyRead_eq _ _ ?_
          by_cases hcode : code > kMaxApplicationErrorCode
          · simp only [hcode, if_true, react]
          · simp only [hcode, if_false, h, react, receive]
      | wtStreamFin =>
          refine readCapsuleVarint_eq _ _ _ fun sid len => ?_
          simp only [h, react, receive]
          rfl
      | wtStream =>
          refine readCapsuleVarint_eq _ _ _ fun sid len => ?_
          simp only [h, react, receive]
          rfl
      | wtMaxData =>
          refine readCapsuleVarint_eq _ _ _ fun value n1 => verifyCapsulePayloadFullyRead_eq _ _ ?_
          simp only [h, react, receive]
      | wtMaxStreamData =>
          refine readCapsuleVarint_eq _ _ _ fun sid n1 => readCapsuleVarint_eq _ _ _ fun value n2 =>
            verifyCapsulePayloadFullyRead_eq _ _ ?_
          simp only [h, react, receive]
      | wtMaxStreamsBidi =>
          refine readCapsuleVarint_eq _ _ _ fun value n1 => verifyCapsulePayloadFullyRead_eq _ _ ?_
          simp only [h, react, receive]
      | wtMaxStreamsUni =>
          refine readCapsuleVarint_eq _ _ _ fun value n1 => verifyCapsulePayloadFullyRead_eq _ _ ?_
          simp only [h, react, receive]
      | wtDataBlocked =>
          exact readCapsuleVarint_eq _ _ _ fun value n1 => verifyCapsulePayloadFullyRead_eq _ _ rfl
      | wtStreamDataBlocked =>
          refine readCapsuleVarint_eq _ _ _ fun sid n1 => readCapsuleVarint_eq _ _ _ fun _ n2 =>
            verifyCapsulePayloadFullyRead_eq _ _ ?_
          simp only [h, react, receive]
      | wtStreamsBlockedBidi =>
          refine readCapsuleVarint_eq _ _ _ fun value n1 => verifyCapsulePayloadFullyRead_eq _ _ ?_
          simp only [h, react, receive]
      | wtStreamsBlockedUni =>
          refine readCapsuleVarint_eq _ _ _ fun value n1 => verifyCapsulePayloadFullyRead_eq _ _ ?_
          simp only [h, react, receive]
      | wtCloseSession =>
          dsimp only [handleWtCloseSession]
          split_ifs <;> rfl
      | wtDrainSession => exact verifyCapsulePayloadFullyRead_eq _ _ rfl

end SessionScope

/-! ## Verdicts -/

/-- What a received capsule comes to: an error that closes the session (with the entry it left
behind and the `Error` event in front), a new entry with the capsules queued between two groups of
events, or the peer's clean close. -/
inductive Verdict
  | refuse (w : WtSessionInfo) (event : Option H2Event) (errorCode : Nat) (message : String)
  | accept (before : List H2Event) (q : Queued) (after : List H2Event)
  | close (event : H2Event)

namespace Verdict

def streamStateError (w : WtSessionInfo) (streamId : Nat) (message : String) : Verdict :=
  .refuse w (some { type := .error, streamId := streamId, errorCode := kWtStreamStateError,
                    errorMessage := ascii message }) kWtStreamStateError message

def flowControlError (w : WtSessionInfo) (message : String) : Verdict :=
  .refuse w none kWtFlowControlError message

def recvFlowControlError (w : WtSessionInfo) (streamId : Nat) (message : String) : Verdict :=
  .refuse w (some { type := .error, streamId := streamId, errorCode := kWtFlowControlError,
                    errorMessage := ascii message }) kWtFlowControlError message

end Verdict

namespace WtSessionInfo

open SessionScope (previousMaxStreamData)

/-- The verdict on stream data for the stream entry `info`. -/
def judgeStreamData (config : H2SessionConfig) (w : WtSessionInfo) (info : WtStreamInfo)
    (streamId : Nat) (fin : Bool) (data : Bytes) : Verdict :=
  if data.length > 0 ∧ info.recvState.recvDone then
    .streamStateError w streamId "WT_STREAM received for stream in terminal state"
  else if w.bytesReceived + data.length > w.maxDataRemote ∨
      info.bytesReceived + data.length > info.maxStreamDataRemote then
    .recvFlowControlError w streamId "peer exceeded flow control limit"
  else
    .accept
      (if data.length > 0 ∨ fin then
        [{ type := .streamData, streamId := streamId, data := data, fin := fin }]
      else [])
      (w.acceptStreamData config streamId info fin data.length) []

/-- The verdict on WT_STREAM and WT_STREAM_FIN. -/
def judgeStream (config : H2SessionConfig) (isServer : Bool) (w : WtSessionInfo) (fin : Bool)
    (streamId : Nat) (data : Bytes) : Verdict :=
  if !isReceivableDataCapsule streamId isServer then
    .streamStateError w streamId "WT_STREAM received for local send-only stream"
  else
    match w.streams.find? streamId with
    | some info => w.judgeStreamData config info streamId fin data
    | none =>
        if streamId ∈ w.releasedStreamIds then
          if data.length = 0 then .accept [] (w, []) []
          else .streamStateError w streamId "WT_STREAM received for released stream"
        else if w.incomingStreamExceedsLimit streamId then
          .recvFlowControlError w streamId "peer exceeded Maximum Streams limit"
        else
          (w.setStream streamId (w.newPeerStream config isServer streamId)).judgeStreamData config
            (w.newPeerStream config isServer streamId) streamId fin data

/-- The verdict on WT_RESET_STREAM. -/
def judgeReset (config : H2SessionConfig) (isServer : Bool) (w : WtSessionInfo)
    (streamId errorCode reliableSize : Nat) : Verdict :=
  let resetEvent : H2Event := { type := .streamReset, streamId := streamId, errorCode := errorCode }
  if !isReceivableDataCapsule streamId isServer then
    .streamStateError w streamId "WT_RESET_STREAM received for local send-only stream"
  else
    match w.streams.find? streamId with
    | none =>
        if streamId ∈ w.releasedStreamIds then
          .streamStateError w streamId "WT_RESET_STREAM received for released stream"
        else if reliableSize > 0 then
          .streamStateError w streamId "WT_RESET_STREAM non-zero reliable size, unknown stream"
        else if w.incomingStreamExceedsLimit streamId then
          .recvFlowControlError w streamId "peer exceeded Maximum Streams limit"
        else
          .accept [resetEvent]
            ((w.setStream streamId { w.newPeerStream config isServer streamId with
                                     recvState := .resetRecvd }).maybeReleaseStream streamId) []
    | some info =>
        if info.recvState.recvDone then
          .streamStateError w streamId "WT_RESET_STREAM received for stream in terminal state"
        else if reliableSize ≠ info.bytesReceived then
          .streamStateError w streamId "WT_RESET_STREAM reliable size mismatch"
        else
          .accept []
            ((w.setStream streamId { info with recvState := .resetRecvd }).maybeReleaseStream
              streamId) [resetEvent]

/-- The verdict on WT_STOP_SENDING. -/
def judgeStopSending (isServer : Bool) (w : WtSessionInfo) (streamId errorCode : Nat) : Verdict :=
  let stopEvent : H2Event := { type := .stopSending, streamId := streamId, errorCode := errorCode }
  if !isReceivableFlowCapsule streamId isServer then
    .streamStateError w streamId "WT_STOP_SENDING received for local receive-only stream"
  else if w.hasReceivedStopSending streamId then
    .streamStateError w streamId "WT_STOP_SENDING received twice"
  else
    match w.streams.find? streamId with
    | none =>
        if streamId ∈ (w.recordStopSending streamId).receivedStopSendingStreamIds then
          .accept [stopEvent] (w.recordStopSending streamId, []) []
        else .accept [] (w, []) []
    | some info =>
        .accept [stopEvent]
          (((w.recordStopSending streamId).setStream streamId
            { info with stopSendingReceived := true }).resetStream streamId errorCode) []

/-- The verdict on WT_MAX_DATA. -/
def judgeMaxData (w : WtSessionInfo) (maxData : Nat) : Verdict :=
  if w.receivedMaxData.any fun received => maxData < received then
    .flowControlError w "WT_MAX_DATA decreased"
  else if maxData > w.maxDataLocal then
    .accept [] ({ w with receivedMaxData := some maxData }.raiseMaxData maxData).flushPendingSends []
  else .accept [] ({ w with receivedMaxData := some maxData }, []) []

/-- The verdict on WT_MAX_STREAM_DATA. -/
def judgeMaxStreamData (isServer : Bool) (w : WtSessionInfo) (streamId maxData : Nat) : Verdict :=
  if !isReceivableFlowCapsule streamId isServer then
    .streamStateError w streamId "WT_MAX_STREAM_DATA received for local receive-only stream"
  else if w.hasReceivedStopSending streamId then
    .streamStateError w streamId "WT_MAX_STREAM_DATA received after WT_STOP_SENDING"
  else if (previousMaxStreamData isServer w streamId).any fun previous => maxData < previous then
    .flowControlError w "WT_MAX_STREAM_DATA decreased"
  else
    match w.streams.find? streamId with
    | none => .accept [] (w.recordMaxStreamData streamId maxData, []) []
    | some info =>
        if maxData > info.maxStreamDataLocal then
          .accept [] ((w.recordMaxStreamData streamId maxData).raiseMaxStreamData streamId info
            maxData).flushPendingSends []
        else .accept [] (w.recordMaxStreamData streamId maxData, []) []

/-- The verdict on WT_MAX_STREAMS, once for each direction. -/
def judgeMaxStreams (w : WtSessionInfo) (isBidi : Bool) (maxStreams : Nat) : Verdict :=
  if maxStreams > kMaxStreamsLimit then .flowControlError w "WT_MAX_STREAMS exceeds 2^60"
  else if (if isBidi then w.receivedMaxStreamsBidi else w.receivedMaxStreamsUni).any
      fun received => maxStreams < received then
    .flowControlError w "WT_MAX_STREAMS decreased"
  else if isBidi then
    if maxStreams > w.maxStreamsBidiLocal then
      .accept [] ({ w with receivedMaxStreamsBidi := some maxStreams,
                           maxStreamsBidiLocal := maxStreams,
                           streamsBlockedBidiSent := false }, []) []
    else .accept [] ({ w with receivedMaxStreamsBidi := some maxStreams }, []) []
  else
    if maxStreams > w.maxStreamsUniLocal then
      .accept [] ({ w with receivedMaxStreamsUni := some maxStreams,
                           maxStreamsUniLocal := maxStreams,
                           streamsBlockedUniSent := false }, []) []
    else .accept [] ({ w with receivedMaxStreamsUni := some maxStreams }, []) []

/-- The verdict on WT_STREAM_DATA_BLOCKED. -/
def judgeStreamDataBlocked (isServer : Bool) (w : WtSessionInfo) (streamId : Nat) : Verdict :=
  if !isReceivableDataCapsule streamId isServer then
    .streamStateError w streamId "WT_STREAM_DATA_BLOCKED received for local send-only stream"
  else if (w.streams.find? streamId).any fun info => info.recvState.recvDone then
    .streamStateError w streamId "WT_STREAM_DATA_BLOCKED received for terminal stream"
  else if streamId ∈ w.releasedStreamIds then
    .streamStateError w streamId "WT_STREAM_DATA_BLOCKED received for released stream"
  else .accept [] (w, []) []

/-- The verdict on a received capsule. -/
def judge (config : H2SessionConfig) (isServer : Bool) (w : WtSessionInfo) : Received → Verdict
  | .stream fin streamId data => w.judgeStream config isServer fin streamId data
  | .resetStream streamId errorCode reliableSize =>
      w.judgeReset config isServer streamId errorCode reliableSize
  | .stopSending streamId errorCode => w.judgeStopSending isServer streamId errorCode
  | .maxData maxData => w.judgeMaxData maxData
  | .maxStreamData streamId maxData => w.judgeMaxStreamData isServer streamId maxData
  | .maxStreams isBidi maxStreams => w.judgeMaxStreams isBidi maxStreams
  | .streamDataBlocked streamId => w.judgeStreamDataBlocked isServer streamId
  | .streamsBlocked maxStreams =>
      if maxStreams > kMaxStreamsLimit then .flowControlError w "WT_STREAMS_BLOCKED exceeds 2^60"
      else .accept [] (w, []) []
  | .datagram data => .accept [{ type := .datagram, data := data }] (w, []) []
  | .closeSession errorCode message =>
      .close { type := .sessionClosed, errorCode := errorCode, errorMessage := message }
  | .drainSession => .accept [{ type := .sessionDraining }] (w, []) []
  | .ignored => .accept [] (w, []) []

end WtSessionInfo

namespace SessionScope

/-- The effect of pushing an event of this session. -/
def eventEffect (sc : SessionScope) (e : H2Event) : Effect :=
  .event { e with sessionId := sc.sessionId }

/-- Carry a verdict out. -/
def carryOut (sc : SessionScope) : Verdict → SessionScope
  | .refuse w event errorCode message =>
      { sc with
        entry := some w
        effects := sc.effects ++ (event.toList.map sc.eventEffect) }.closeSession errorCode
          (ascii message)
  | .accept before q after =>
      { sc with
        entry := some q.1
        effects := sc.effects ++ (before.map sc.eventEffect ++ q.2.map .capsule ++
          after.map sc.eventEffect) }
  | .close event => (sc.pushEvent event).eraseSession

section ReceiveEq

variable {sc : SessionScope} {w : WtSessionInfo}

theorem setEntry_self (h : sc.entry = some w) : sc.setEntry w = sc := by
  cases sc
  simp only at h
  rw [h]
  rfl

theorem carryOut_unchanged (h : sc.entry = some w) : sc.carryOut (.accept [] (w, []) []) = sc := by
  rw [← setEntry_self h]
  simp [carryOut, setEntry]

theorem carryOut_update (sc : SessionScope) (w : WtSessionInfo) :
    sc.carryOut (.accept [] (w, []) []) = sc.setEntry w := by
  simp [carryOut, setEntry]

theorem carryOut_store (sc : SessionScope) (q : Queued) :
    sc.carryOut (.accept [] q []) = sc.store q := by
  simp [carryOut, store]

theorem carryOut_event (h : sc.entry = some w) (e : H2Event) :
    sc.carryOut (.accept [e] (w, []) []) = sc.pushEvent e := by
  have hself := setEntry_self h
  rw [← hself]
  rfl

theorem carryOut_event_store (sc : SessionScope) (q : Queued) (e : H2Event) :
    sc.carryOut (.accept [e] q []) = (sc.pushEvent e).store q := by
  simp [carryOut, store, pushEvent, perform, eventEffect]

theorem carryOut_store_event (sc : SessionScope) (q : Queued) (e : H2Event) :
    sc.carryOut (.accept [] q [e]) = (sc.store q).pushEvent e := by
  simp [carryOut, store, pushEvent, perform, eventEffect]

theorem carryOut_streamStateError (sc : SessionScope) (w : WtSessionInfo) (streamId : Nat)
    (message : String) :
    sc.carryOut (.streamStateError w streamId message) =
      (sc.setEntry w).reportStreamStateError streamId message := rfl

theorem carryOut_recvFlowControlError (sc : SessionScope) (w : WtSessionInfo) (streamId : Nat)
    (message : String) :
    sc.carryOut (.recvFlowControlError w streamId message) =
      (sc.setEntry w).reportRecvFlowControlError streamId message := rfl

theorem carryOut_flowControlError (sc : SessionScope) (w : WtSessionInfo) (message : String) :
    sc.carryOut (.flowControlError w message) =
      (sc.setEntry w).reportFlowControlError message := by
  simp [carryOut, Verdict.flowControlError, reportFlowControlError, setEntry]

theorem recvStreamData_eq (sc : SessionScope) (w : WtSessionInfo) (info : WtStreamInfo)
    (streamId : Nat) (fin : Bool) (data : Bytes) :
    sc.recvStreamData w info streamId fin data =
      sc.carryOut (w.judgeStreamData sc.config info streamId fin data) := by
  unfold recvStreamData WtSessionInfo.judgeStreamData
  split_ifs
  · rw [carryOut_streamStateError]
  · rw [carryOut_recvFlowControlError]
  · exact (carryOut_event_store sc _ _).symm
  · exact (carryOut_store sc _).symm

theorem receiveStream_eq (h : sc.entry = some w) (fin : Bool) (streamId : Nat) (data : Bytes) :
    sc.receiveStream w fin streamId data =
      sc.carryOut (w.judgeStream sc.config sc.isServer fin streamId data) := by
  unfold receiveStream WtSessionInfo.judgeStream
  cases w.streams.find? streamId with
  | some info =>
      dsimp only
      split_ifs
      · rw [carryOut_streamStateError, setEntry_self h]
      · exact recvStreamData_eq sc w info streamId fin data
  | none =>
      dsimp only
      split_ifs
      · rw [carryOut_streamStateError, setEntry_self h]
      · rw [carryOut_unchanged h]
      · rw [carryOut_streamStateError, setEntry_self h]
      · rw [carryOut_recvFlowControlError, setEntry_self h]
      · exact recvStreamData_eq sc _ _ streamId fin data

theorem recvReset_eq (h : sc.entry = some w) (streamId errorCode reliableSize : Nat) :
    sc.recvReset w streamId errorCode reliableSize =
      sc.carryOut (w.judgeReset sc.config sc.isServer streamId errorCode reliableSize) := by
  unfold recvReset WtSessionInfo.judgeReset
  cases w.streams.find? streamId with
  | none =>
      dsimp only
      split_ifs
      · rw [carryOut_streamStateError, setEntry_self h]
      · rw [carryOut_streamStateError, setEntry_self h]
      · rw [carryOut_streamStateError, setEntry_self h]
      · rw [carryOut_recvFlowControlError, setEntry_self h]
      · rw [carryOut_event_store]
  | some info =>
      dsimp only
      split_ifs
      · rw [carryOut_streamStateError, setEntry_self h]
      · rw [carryOut_streamStateError, setEntry_self h]
      · rw [carryOut_streamStateError, setEntry_self h]
      · rw [carryOut_store_event]

theorem stopSending_eq (h : sc.entry = some w) (streamId errorCode : Nat) :
    sc.receive w (.stopSending streamId errorCode) =
      sc.carryOut (w.judgeStopSending sc.isServer streamId errorCode) := by
  unfold WtSessionInfo.judgeStopSending
  simp only [receive, recvStopSending]
  have hstreams : (w.recordStopSending streamId).streams = w.streams := rfl
  rw [hstreams]
  cases w.streams.find? streamId with
  | none =>
      dsimp only
      split_ifs
      · rw [carryOut_streamStateError, setEntry_self h]
      · rw [carryOut_streamStateError, setEntry_self h]
      · rfl
      · rw [carryOut_unchanged h]
  | some info =>
      dsimp only
      split_ifs
      · rw [carryOut_streamStateError, setEntry_self h]
      · rw [carryOut_streamStateError, setEntry_self h]
      · rw [carryOut_event_store]
        rfl

theorem recvMaxStreamData_eq (h : sc.entry = some w) (streamId maxData : Nat) :
    sc.recvMaxStreamData w streamId maxData =
      sc.carryOut (w.judgeMaxStreamData sc.isServer streamId maxData) := by
  unfold recvMaxStreamData WtSessionInfo.judgeMaxStreamData
  have hstreams : (w.recordMaxStreamData streamId maxData).streams = w.streams := rfl
  dsimp only
  rw [hstreams]
  cases w.streams.find? streamId with
  | none =>
      dsimp only
      split_ifs
      · rw [carryOut_streamStateError, setEntry_self h]
      · rw [carryOut_streamStateError, setEntry_self h]
      · rw [carryOut_flowControlError, setEntry_self h]
      · rw [carryOut_update]
  | some info =>
      dsimp only
      split_ifs
      · rw [carryOut_streamStateError, setEntry_self h]
      · rw [carryOut_streamStateError, setEntry_self h]
      · rw [carryOut_flowControlError, setEntry_self h]
      · rw [carryOut_store]
      · rw [carryOut_update]

theorem recvMaxStreams_eq (h : sc.entry = some w) (isBidi : Bool) (maxStreams : Nat) :
    sc.recvMaxStreams w isBidi maxStreams = sc.carryOut (w.judgeMaxStreams isBidi maxStreams) := by
  unfold recvMaxStreams WtSessionInfo.judgeMaxStreams
  cases isBidi with
  | true =>
      simp only [if_true]
      split_ifs
      · rw [carryOut_flowControlError, setEntry_self h]
      · rw [carryOut_flowControlError, setEntry_self h]
      · rw [carryOut_update]
      · rw [carryOut_update]
  | false =>
      simp only [Bool.false_eq_true, if_false]
      split_ifs
      · rw [carryOut_flowControlError, setEntry_self h]
      · rw [carryOut_flowControlError, setEntry_self h]
      · rw [carryOut_update]
      · rw [carryOut_update]

/-- Acting on a received capsule is carrying out the verdict on it. -/
theorem receive_eq (h : sc.entry = some w) (r : Received) :
    sc.receive w r = sc.carryOut (w.judge sc.config sc.isServer r) := by
  cases r with
  | stream fin streamId data => exact receiveStream_eq h fin streamId data
  | resetStream streamId errorCode reliableSize =>
      exact recvReset_eq h streamId errorCode reliableSize
  | stopSending streamId errorCode => exact stopSending_eq h streamId errorCode
  | maxData maxData =>
      simp only [receive, recvMaxData, WtSessionInfo.judge, WtSessionInfo.judgeMaxData]
      split_ifs
      · rw [carryOut_flowControlError, setEntry_self h]
      · rw [carryOut_store]
      · rw [carryOut_update]
  | maxStreamData streamId maxData => exact recvMaxStreamData_eq h streamId maxData
  | maxStreams isBidi maxStreams => exact recvMaxStreams_eq h isBidi maxStreams
  | streamDataBlocked streamId =>
      simp only [receive, recvStreamDataBlocked, WtSessionInfo.judge,
        WtSessionInfo.judgeStreamDataBlocked]
      split_ifs
      · rw [carryOut_streamStateError, setEntry_self h]
      · rw [carryOut_streamStateError, setEntry_self h]
      · rw [carryOut_streamStateError, setEntry_self h]
      · rw [carryOut_unchanged h]
  | streamsBlocked maxStreams =>
      simp only [receive, WtSessionInfo.judge]
      split_ifs
      · rw [carryOut_flowControlError, setEntry_self h]
      · rw [carryOut_unchanged h]
  | datagram data => exact (carryOut_event h _).symm
  | closeSession errorCode message => rfl
  | drainSession => exact (carryOut_event h _).symm
  | ignored => exact (carryOut_unchanged h).symm

end ReceiveEq

end SessionScope

/-! ## Reading back what was written -/

namespace Capsule

/-- What the receiver of a capsule reads. -/
def received : Capsule → Received
  | .datagram data => .datagram data
  | .wtResetStream streamId errorCode reliableSize => .resetStream streamId errorCode reliableSize
  | .wtStopSending streamId errorCode => .stopSending streamId errorCode
  | .wtStream fin streamId data => .stream fin streamId data
  | .wtMaxData maxData => .maxData maxData
  | .wtMaxStreamData streamId maxData => .maxStreamData streamId maxData
  | .wtMaxStreamsBidi maxStreams => .maxStreams true maxStreams
  | .wtMaxStreamsUni maxStreams => .maxStreams false maxStreams
  | .wtDataBlocked _ => .ignored
  | .wtStreamDataBlocked streamId _ => .streamDataBlocked streamId
  | .wtStreamsBlockedBidi limit => .streamsBlocked limit
  | .wtStreamsBlockedUni limit => .streamsBlocked limit
  | .wtCloseSession errorCode message => .closeSession errorCode message
  | .wtDrainSession => .drainSession

/-- The application error code of a capsule that carries one. -/
def applicationErrorCode : Capsule → Nat
  | .wtResetStream _ errorCode _ => errorCode
  | .wtStopSending _ errorCode => errorCode
  | .wtCloseSession errorCode _ => errorCode
  | _ => 0

/-- The close message of a capsule that carries one. -/
def closeMessage : Capsule → Bytes
  | .wtCloseSession _ message => message
  | _ => []

/-- Every field of the capsule fits its encoding. -/
structure Encodable (c : Capsule) : Prop where
  varints : ∀ value ∈ c.varintFields, value ≤ kMaxQuicVarint
  code : c.applicationErrorCode ≤ kMaxApplicationErrorCode
  message_length : c.closeMessage.length ≤ kMaxApplicationErrorMessageBytes
  message_valid : c.closeMessage ≠ [] → isValidUtf8 c.closeMessage = true

theorem varint_encode {value : Nat} (h : value ≤ kMaxQuicVarint) (t : Bytes)
    (next : Nat → Nat → Reading) :
    Reading.varint (varintBytes value ++ t) next = next value (quicVarintLength value) := by
  unfold Reading.varint
  rw [decodeQuicVarint_encode h t]

theorem drop_varintBytes (value : Nat) (t : Bytes) :
    (varintBytes value ++ t).drop (quicVarintLength value) = t := by
  rw [← varintBytes_length, List.drop_left]

theorem readErrorCode_errorCodeBytes {code : Nat} (h : code ≤ kMaxApplicationErrorCode)
    (message : Bytes) :
    SessionScope.readErrorCode (errorCodeBytes code ++ message) = code := by
  unfold kMaxApplicationErrorCode at h
  simp only [SessionScope.readErrorCode, errorCodeBytes, List.cons_append, List.take_succ_cons,
    List.take_zero, List.foldl_cons, List.foldl_nil, toNat_ofNat_byte]
  omega

/-- A payload of one varint. -/
theorem read_one {a : Nat} (ha : a ≤ kMaxQuicVarint) (next : Nat → Reading) :
    (Reading.varint (varintBytes a) fun x n1 =>
      .verifyEnd n1 (varintBytes a).length (next x)) = next a := by
  have h := varint_encode ha [] fun x n1 => .verifyEnd n1 (varintBytes a).length (next x)
  rw [List.append_nil] at h
  rw [h, varintBytes_length]
  exact if_pos rfl

/-- A payload of two varints. -/
theorem read_two {a b : Nat} (ha : a ≤ kMaxQuicVarint) (hb : b ≤ kMaxQuicVarint)
    (next : Nat → Nat → Reading) :
    (Reading.varint (varintBytes a ++ varintBytes b) fun x n1 =>
      Reading.varint ((varintBytes a ++ varintBytes b).drop n1) fun y n2 =>
        .verifyEnd (n1 + n2) (varintBytes a ++ varintBytes b).length (next x y)) = next a b := by
  rw [varint_encode ha, drop_varintBytes]
  have h := varint_encode hb [] fun y n2 =>
    .verifyEnd (quicVarintLength a + n2) (varintBytes a ++ varintBytes b).length (next a y)
  rw [List.append_nil] at h
  rw [h, List.length_append, varintBytes_length, varintBytes_length]
  exact if_pos rfl

/-- A receiver reads back the capsule that was written. -/
theorem readPayload_payload {c : Capsule} (h : c.Encodable) :
    readPayload c.type.toNat c.payload = .received c.received := by
  have hv := h.varints
  cases c with
  | datagram data => rfl
  | wtResetStream sid code size =>
      simp only [varintFields, List.mem_cons, List.not_mem_nil, or_false, forall_eq_or_imp,
        forall_eq] at hv
      obtain ⟨hsid, hcode, hsize⟩ := hv
      have hlim : ¬ code > kMaxApplicationErrorCode := not_lt.2 h.code
      unfold readPayload
      rw [CapsuleType.ofNat?_toNat]
      simp only [type, payload, received, List.append_assoc]
      rw [varint_encode hsid, drop_varintBytes, varint_encode hcode, if_neg hlim, ← List.drop_drop,
        drop_varintBytes, drop_varintBytes]
      have hread := varint_encode hsize [] fun size' n3 =>
        .verifyEnd (quicVarintLength sid + quicVarintLength code + n3)
          (varintBytes sid ++ (varintBytes code ++ varintBytes size)).length
          (.received (.resetStream sid code size'))
      rw [List.append_nil] at hread
      rw [hread, List.length_append, List.length_append, varintBytes_length, varintBytes_length,
        varintBytes_length]
      exact if_pos (Nat.add_assoc _ _ _)
  | wtStopSending sid code =>
      simp only [varintFields, List.mem_cons, List.not_mem_nil, or_false, forall_eq_or_imp,
        forall_eq] at hv
      have hlim : ¬ code > kMaxApplicationErrorCode := not_lt.2 h.code
      refine (read_two hv.1 hv.2 fun sid code =>
        if code > kMaxApplicationErrorCode then
          .wtError "WT_STOP_SENDING error code exceeds 0xffffffff"
        else .received (.stopSending sid code)).trans ?_
      exact if_neg hlim
  | wtStream fin sid data =>
      have hsid : sid ≤ kMaxQuicVarint := hv sid (List.mem_singleton_self _)
      cases fin with
      | false =>
          refine (varint_encode hsid data fun sid n1 =>
            .received (.stream false sid ((varintBytes _ ++ data).drop n1))).trans ?_
          rw [drop_varintBytes]
          rfl
      | true =>
          refine (varint_encode hsid data fun sid n1 =>
            .received (.stream true sid ((varintBytes _ ++ data).drop n1))).trans ?_
          rw [drop_varintBytes]
          rfl
  | wtMaxData value => exact read_one (hv _ (List.mem_singleton_self _)) _
  | wtMaxStreamData sid value =>
      exact read_two (hv _ List.mem_cons_self) (hv _ (List.mem_cons_of_mem _ List.mem_cons_self))
        fun sid value => .received (.maxStreamData sid value)
  | wtMaxStreamsBidi value => exact read_one (hv _ (List.mem_singleton_self _)) _
  | wtMaxStreamsUni value => exact read_one (hv _ (List.mem_singleton_self _)) _
  | wtDataBlocked limit => exact read_one (hv _ (List.mem_singleton_self _)) _
  | wtStreamDataBlocked sid limit =>
      exact read_two (hv _ List.mem_cons_self) (hv _ (List.mem_cons_of_mem _ List.mem_cons_self))
        fun sid _ => .received (.streamDataBlocked sid)
  | wtStreamsBlockedBidi limit => exact read_one (hv _ (List.mem_singleton_self _)) _
  | wtStreamsBlockedUni limit => exact read_one (hv _ (List.mem_singleton_self _)) _
  | wtCloseSession code message =>
      have hlen : ¬ message.length > kMaxApplicationErrorMessageBytes := not_lt.2 h.message_length
      have hvalid : ¬ (message.length > 0 ∧ (!isValidUtf8 message) = true) := by
        rintro ⟨hpos, hbad⟩
        have hgood := h.message_valid (List.ne_nil_of_length_pos hpos)
        simp only [closeMessage] at hgood
        simp [hgood] at hbad
      have hdrop : (errorCodeBytes code ++ message).drop 4 = message := rfl
      have hread : readPayload CapsuleType.wtCloseSession.toNat (errorCodeBytes code ++ message) =
          .received (.closeSession (SessionScope.readErrorCode (errorCodeBytes code ++ message))
            message) := by
        unfold readPayload
        rw [CapsuleType.ofNat?_toNat]
        simp only [hdrop, hlen, hvalid, if_false]
        exact if_neg (by simp [errorCodeBytes])
      have hcode : code ≤ kMaxApplicationErrorCode := h.code
      rw [readErrorCode_errorCodeBytes hcode] at hread
      exact hread
  | wtDrainSession => rfl

end Capsule

end H2
end WebTransport
