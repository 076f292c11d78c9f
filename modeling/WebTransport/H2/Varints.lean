import WebTransport.Bindings.PythonInput
import WebTransport.H2.Calls

/-!
# H2.Varints — what is handed to `encode_quic_varint`

`encode_quic_varint` throws beyond `2^62 - 1`, and most capsules are built inside callbacks that must
not throw.  The limits a peer announces in WebTransport-Init reach `2^64 - 1`, yet none of them is
ever encoded:

* `Bounded`             : what keeps the values of a session entry in range;
* `Trans.bounded`       : every change keeps it, and what a change queues can be encoded;
* `H2Session.all_in_range` : in every run, every capsule can be encoded.
-/

namespace WebTransport
namespace H2

open Bindings

/-! ## The values of a capsule -/

namespace Capsule

/-- Every value that building and sending the capsule passes to `encode_quic_varint`: the fields, the
capsule type and the payload length. -/
def encoded (c : Capsule) : List Nat := c.varintFields ++ [c.type.toNat, c.payload.length]

/-- None of the calls of `encode_quic_varint` throws. -/
def InRange (c : Capsule) : Prop := ∀ value ∈ c.encoded, value ≤ kMaxQuicVarint

/-- What a caller put into the capsule is in the range of its type: the data passed the check of the
binding, the error code is a `uint32_t`. -/
def Given : Capsule → Prop
  | .datagram data => data.length ≤ kMaxPythonInputBytes
  | .wtResetStream _ errorCode _ => errorCode ≤ kMaxApplicationErrorCode
  | .wtStopSending _ errorCode => errorCode ≤ kMaxApplicationErrorCode
  | _ => True

theorem inRange_of {c : Capsule} (hfields : ∀ value ∈ c.varintFields, value ≤ kMaxQuicVarint)
    (hlength : c.payload.length ≤ kMaxQuicVarint) : c.InRange := by
  intro value hvalue
  rcases List.mem_append.1 hvalue with hfield | hrest
  · exact hfields value hfield
  · rcases List.mem_cons.1 hrest with rfl | hlast
    · exact CapsuleType.toNat_le c.type
    · rw [List.mem_singleton.1 hlast]
      exact hlength

end Capsule

theorem varintBytes_length_le (value : Nat) : (varintBytes value).length ≤ 8 := by
  rw [varintBytes_length]
  unfold quicVarintLength
  split_ifs <;> omega

theorem kMaxApplicationErrorCode_le : kMaxApplicationErrorCode ≤ kMaxQuicVarint := by decide

theorem kMaxStreamsLimit_le : kMaxStreamsLimit ≤ kMaxQuicVarint := by decide

theorem kMaxSettingsValue_le : kMaxSettingsValue ≤ kMaxQuicVarint := by decide

/-- Stream data together with the stream id in front of it still has a length that fits. -/
theorem framed_length_le {size : Nat} (h : size ≤ kMaxPythonInputBytes) :
    8 + size ≤ kMaxQuicVarint := by
  have hroom : 8 + kMaxPythonInputBytes ≤ kMaxQuicVarint := by decide
  exact le_trans (Nat.add_le_add_left h 8) hroom

/-! ## What the operations are given -/

/-- Everything a caller put into the queued capsules is in range. -/
def Queued.Given (q : Queued) : Prop := ∀ c ∈ q.2, c.Given

namespace Queued.Given

theorem nil (w : WtSessionInfo) : Queued.Given (w, []) := fun _ hc => absurd hc List.not_mem_nil

theorem one {c : Capsule} (w : WtSessionInfo) (h : c.Given) : Queued.Given (w, [c]) := by
  intro c' hc'
  rw [List.mem_singleton.1 hc']
  exact h

theorem andThen {q : Queued} {f : WtSessionInfo → Queued} (h : q.Given)
    (hf : ∀ w, Queued.Given (f w)) : (q.andThen f).Given := by
  intro c hc
  rcases List.mem_append.1 hc with hc | hc
  · exact h c hc
  · exact hf q.1 c hc

end Queued.Given

/-- What an accepted capsule makes the session queue is in range. -/
def Verdict.Given : Verdict → Prop
  | .accept _ q _ => q.Given
  | _ => True

namespace WtSessionInfo

theorem maybeSendMaxData_given (config : H2SessionConfig) (w : WtSessionInfo) :
    (w.maybeSendMaxData config).Given := by
  unfold maybeSendMaxData
  dsimp only
  split_ifs <;> first | exact .nil w | exact .one _ trivial

theorem maybeSendMaxStreamData_given (config : H2SessionConfig) (streamId : Nat)
    (w : WtSessionInfo) : (w.maybeSendMaxStreamData config streamId).Given := by
  unfold maybeSendMaxStreamData
  cases w.streams.find? streamId <;> dsimp only <;> split_ifs <;>
    first | exact .nil w | exact .one _ trivial

theorem replenishStreams_given (isUni : Bool) (w : WtSessionInfo) :
    (w.replenishStreams isUni).Given := by
  unfold replenishStreams
  split_ifs <;> first | exact .nil w | exact .one _ trivial

theorem maybeReleaseStream_given (streamId : Nat) (w : WtSessionInfo) :
    (w.maybeReleaseStream streamId).Given := by
  unfold maybeReleaseStream
  cases w.streams.find? streamId with
  | none => exact .nil w
  | some info =>
      dsimp only
      split_ifs
      · exact .nil _
      · exact replenishStreams_given _ _
      · exact .nil w

theorem finishRecv_given (streamId : Nat) (w : WtSessionInfo) : (w.finishRecv streamId).Given := by
  unfold finishRecv
  cases w.streams.find? streamId with
  | none => exact .nil w
  | some info => exact maybeReleaseStream_given _ _

theorem acceptStreamData_given (config : H2SessionConfig) (streamId : Nat) (info : WtStreamInfo)
    (fin : Bool) (size : Nat) (w : WtSessionInfo) :
    (w.acceptStreamData config streamId info fin size).Given := by
  have hreplenished : (((w.countReceived streamId info size).maybeSendMaxData config).andThen
      (maybeSendMaxStreamData config streamId)).Given :=
    .andThen (maybeSendMaxData_given _ _) (maybeSendMaxStreamData_given _ _)
  unfold acceptStreamData
  dsimp only
  split_ifs
  · exact .andThen hreplenished (finishRecv_given _)
  · exact hreplenished

/-- The inner loop of the flush queues stream data only. -/
theorem flushLoop_given (streamId sessionLimit streamLimit : Nat) (pending : List PendingSend)
    (sessionSent streamSent : Nat) :
    ∀ c ∈ (flushLoop streamId sessionLimit streamLimit pending sessionSent streamSent).capsules,
      c.Given := by
  induction pending generalizing sessionSent streamSent with
  | nil => exact fun c hc => absurd hc List.not_mem_nil
  | cons front rest ih =>
      intro c hc
      unfold flushLoop at hc
      dsimp only at hc
      split_ifs at hc with hzero hshort hfin
      · exact absurd hc List.not_mem_nil
      · rw [List.mem_singleton.1 hc]
        trivial
      · rw [List.mem_singleton.1 hc]
        trivial
      · rcases List.mem_cons.1 hc with rfl | hc
        · trivial
        · exact ih _ _ c hc

theorem flushStream_given (streamId : Nat) (w : WtSessionInfo) : (w.flushStream streamId).Given := by
  unfold flushStream
  cases w.streams.find? streamId with
  | none => exact .nil w
  | some info =>
      have hloop : Queued.Given (w.afterFlush streamId info (w.runFlushLoop streamId info),
          (w.runFlushLoop streamId info).capsules) := flushLoop_given _ _ _ _ _ _
      dsimp only
      split_ifs
      · exact .nil _
      · exact .andThen hloop (maybeReleaseStream_given streamId)
      · exact hloop

theorem flushWalk_given (ids : List Nat) (w : WtSessionInfo) : (flushWalk ids w).Given := by
  induction ids generalizing w with
  | nil => exact .nil w
  | cons streamId rest ih => exact .andThen (flushStream_given streamId w) ih

theorem flushRounds_given (fuel : Nat) (w : WtSessionInfo) : (flushRounds fuel w).Given := by
  induction fuel generalizing w with
  | zero => exact .nil w
  | succ fuel ih =>
      unfold flushRounds
      dsimp only
      split_ifs
      · exact flushWalk_given _ _
      · exact .andThen (flushWalk_given _ _) ih

theorem flushPendingSends_given (w : WtSessionInfo) : w.flushPendingSends.Given := by
  unfold flushPendingSends
  split_ifs
  · exact .nil w
  · exact flushRounds_given _ _

theorem openStream_given (config : H2SessionConfig) (isServer isUnidirectional : Bool)
    (w : WtSessionInfo) : (w.openStream config isServer isUnidirectional).1.Given := by
  unfold openStream
  dsimp only
  split_ifs <;> first | exact .nil _ | exact .one _ trivial

theorem sendBlocked_given (w : WtSessionInfo) (info : WtStreamInfo) (streamId : Nat) (data : Bytes)
    (fin : Bool) (sessionAvail streamAvail : Nat) :
    (w.sendBlocked info streamId data fin sessionAvail streamAvail).Given := by
  intro c hc
  unfold sendBlocked at hc
  simp only [List.mem_append] at hc
  rcases hc with (hc | hc) | hc <;> split_ifs at hc <;>
    first | (rw [List.mem_singleton.1 hc]; trivial) | exact absurd hc List.not_mem_nil

theorem sendWhole_given (w : WtSessionInfo) (info : WtStreamInfo) (streamId : Nat) (data : Bytes)
    (fin : Bool) : (w.sendWhole info streamId data fin).Given := by
  unfold sendWhole
  dsimp only
  split_ifs
  · exact .andThen (.one _ trivial) (maybeReleaseStream_given streamId)
  · exact .one _ trivial

theorem sendStreamData_given (streamId : Nat) (data : Bytes) (fin : Bool) (w : WtSessionInfo) :
    (w.sendStreamData streamId data fin).Given := by
  unfold sendStreamData
  split_ifs
  · exact .nil w
  · cases w.streams.find? streamId with
    | none => exact .nil w
    | some info =>
        dsimp only
        cases info.pendingSends.getLast? with
        | some last =>
            dsimp only
            split_ifs <;> exact .nil _
        | none =>
            dsimp only
            split_ifs
            · exact .nil w
            · exact .nil w
            · exact sendBlocked_given _ _ _ _ _ _ _
            · exact sendWhole_given _ _ _ _ _

theorem resetStream_given (streamId : Nat) {errorCode : Nat}
    (h : errorCode ≤ kMaxApplicationErrorCode) (w : WtSessionInfo) :
    (w.resetStream streamId errorCode).Given := by
  unfold resetStream
  split_ifs
  · exact .nil w
  · cases w.streams.find? streamId with
    | none => exact .nil w
    | some info =>
        dsimp only
        split_ifs
        · exact .nil w
        · exact .andThen (.one _ h) (maybeReleaseStream_given streamId)

theorem stopSending_given (streamId : Nat) {errorCode : Nat}
    (h : errorCode ≤ kMaxApplicationErrorCode) (w : WtSessionInfo) :
    (w.stopSending streamId errorCode).Given := by
  unfold stopSending
  split_ifs <;> first | exact .nil w | exact .one _ h

theorem sendDatagram_given {data : Bytes} (h : data.length ≤ kMaxPythonInputBytes)
    (w : WtSessionInfo) : (w.sendDatagram data).Given := by
  unfold sendDatagram
  split_ifs <;> first | exact .nil w | exact .one _ h

theorem drainSession_given (w : WtSessionInfo) : w.drainSession.Given := by
  unfold drainSession
  split_ifs <;> first | exact .nil w | exact .one _ trivial

/-! ## Entries whose values fit -/

/-- What the values of an entry keep to, so that none of them leaves the range of a varint. -/
structure Bounded (w : WtSessionInfo) : Prop where
  maxData : w.maxDataLocal ≤ kMaxQuicVarint
  maxStreamsBidi : w.maxStreamsBidiLocal ≤ kMaxStreamsLimit
  maxStreamsUni : w.maxStreamsUniLocal ≤ kMaxStreamsLimit
  nextBidi : w.nextBidiStreamId = w.streamsBidiOpened
  nextUni : w.nextUniStreamId = w.streamsUniOpened
  stream : ∀ ⦃streamId : Nat⦄ ⦃info : WtStreamInfo⦄, w.streams.find? streamId = some info →
    streamId ≤ kMaxQuicVarint ∧ info.bytesSent ≤ w.bytesSent ∧
      ∀ p ∈ info.pendingSends, p.data.length ≤ kMaxPythonInputBytes

namespace Bounded

variable {w : WtSessionInfo} {streamId : Nat} {info : WtStreamInfo}

/-- A change of fields that `Bounded` does not speak about. -/
theorem same {w' : WtSessionInfo} (h : Bounded w) (hdata : w'.maxDataLocal = w.maxDataLocal)
    (hstreams : w'.streams = w.streams) (hsent : w'.bytesSent = w.bytesSent)
    (hcounters : (w'.maxStreamsBidiLocal, w'.maxStreamsUniLocal, w'.nextBidiStreamId,
        w'.streamsBidiOpened, w'.nextUniStreamId, w'.streamsUniOpened) =
      (w.maxStreamsBidiLocal, w.maxStreamsUniLocal, w.nextBidiStreamId, w.streamsBidiOpened,
        w.nextUniStreamId, w.streamsUniOpened)) : Bounded w' := by
  simp only [Prod.mk.injEq] at hcounters
  rcases hcounters with ⟨hbidi, huni, hnextBidi, hopenedBidi, hnextUni, hopenedUni⟩
  refine ⟨hdata ▸ h.maxData, hbidi ▸ h.maxStreamsBidi, huni ▸ h.maxStreamsUni, ?_, ?_, ?_⟩
  · rw [hnextBidi, hopenedBidi]
    exact h.nextBidi
  · rw [hnextUni, hopenedUni]
    exact h.nextUni
  · intro streamId info hfind
    rw [hstreams] at hfind
    rw [hsent]
    exact h.stream hfind

/-- Writing back a stream entry together with the session's send counter. -/
theorem setStream (h : Bounded w) {sent : Nat} (hsent : w.bytesSent ≤ sent)
    (hid : streamId ≤ kMaxQuicVarint) (hbytes : info.bytesSent ≤ sent)
    (hpending : ∀ p ∈ info.pendingSends, p.data.length ≤ kMaxPythonInputBytes) :
    Bounded ({ w with bytesSent := sent }.setStream streamId info) := by
  refine ⟨h.maxData, h.maxStreamsBidi, h.maxStreamsUni, h.nextBidi, h.nextUni, ?_⟩
  intro streamId' info' hfind
  rw [find?_setStream] at hfind
  split_ifs at hfind with heq
  · cases hfind
    rw [heq]
    exact ⟨hid, hbytes, hpending⟩
  · rcases h.stream hfind with ⟨hid', hbytes', hpending'⟩
    exact ⟨hid', le_trans hbytes' hsent, hpending'⟩

/-- Rewriting a stream entry without touching what it has sent. -/
theorem update (h : Bounded w) (hfind : w.streams.find? streamId = some info)
    {info' : WtStreamInfo} (hsent : info'.bytesSent = info.bytesSent)
    (hpending : ∀ p ∈ info'.pendingSends, p.data.length ≤ kMaxPythonInputBytes) :
    Bounded (w.setStream streamId info') := by
  rcases h.stream hfind with ⟨hid, hbytes, -⟩
  exact h.setStream (Nat.le_refl _) hid (hsent ▸ hbytes) hpending

theorem dropStream (h : Bounded w) (streamId : Nat) (info : WtStreamInfo) :
    Bounded (w.dropStream streamId info) := by
  refine ⟨h.maxData, h.maxStreamsBidi, h.maxStreamsUni, h.nextBidi, h.nextUni, ?_⟩
  intro streamId' info' hfind
  have hfind' : (w.streams.erase streamId).find? streamId' = some info' := hfind
  rw [OrdMap.find?_erase] at hfind'
  split_ifs at hfind' with heq
  exact h.stream hfind'

/-- The id that the next `open_stream` hands out fits. -/
theorem openId_le {opened limit : Nat} (hopened : opened < limit) (hlimit : limit ≤ kMaxStreamsLimit)
    (isServer isUni : Bool) : buildStreamId isServer isUni opened ≤ kMaxQuicVarint := by
  have hcounter : opened < 2 ^ 60 := lt_of_lt_of_le hopened hlimit
  unfold buildStreamId kMaxQuicVarint
  cases isServer <;> cases isUni <;> simp only [if_true, Bool.false_eq_true, if_false] <;> omega

end Bounded

end WtSessionInfo

/-! ## Changes keep the values in range -/

/-- Runs that create streams only under ids that fit. -/
def Permits.fitting : Permits where
  reset _ := True
  stop _ := True
  create _ streamId := streamId ≤ kMaxQuicVarint
  lateFin _ := True

/-- What the caller or the peer put into the label is in range. -/
def Label.Fits : Label → Prop
  | .accepted _ data _ => data.length ≤ kMaxPythonInputBytes
  | .sent c => c.Given
  | .received r _ => r.Fits
  | .internal => True

namespace WtSessionInfo

section Changes

variable {config : H2SessionConfig} {isServer : Bool} {w w' : WtSessionInfo} {l : Label}

theorem newStream_bytesSent (w : WtSessionInfo) (config : H2SessionConfig) (streamId : Nat)
    (isLocal isUni : Bool) : (w.newStream config streamId isLocal isUni).bytesSent = 0 ∧
      (w.newStream config streamId isLocal isUni).pendingSends = [] := by
  unfold newStream initializeStreamSendCredit
  cases w.receivedMaxStreamDataById.find? streamId <;> exact ⟨rfl, rfl⟩

theorem Reaches.fits {streamId : Nat} {info : WtStreamInfo}
    (h : Reaches .fitting config isServer w streamId info) (hb : Bounded w) :
    streamId ≤ kMaxQuicVarint ∧ info.bytesSent ≤ w.bytesSent ∧
      ∀ p ∈ info.pendingSends, p.data.length ≤ kMaxPythonInputBytes := by
  cases h with
  | existing hfind => exact hb.stream hfind
  | created hcreate hnone hreleased hlimit =>
      rcases newStream_bytesSent w config streamId (isServerId streamId == isServer)
        (isUniId streamId) with ⟨hsent, hpending⟩
      refine ⟨hcreate, ?_, ?_⟩
      · exact le_of_eq_of_le hsent (Nat.zero_le _)
      · intro p hp
        rw [newPeerStream, hpending] at hp
        exact absurd hp List.not_mem_nil

/-- A stream that was just opened. -/
theorem Bounded.opened (hb : Bounded w) {streamId : Nat} (hid : streamId ≤ kMaxQuicVarint)
    (isUni : Bool) :
    Bounded ((w.allocateStreamId isUni).setStream streamId
      (w.newStream config streamId true isUni)) := by
  rcases newStream_bytesSent w config streamId true isUni with ⟨hsent, hpending⟩
  have hcounted : Bounded (w.allocateStreamId isUni) := by
    cases isUni with
    | true => exact ⟨hb.maxData, hb.maxStreamsBidi, hb.maxStreamsUni, hb.nextBidi,
        congrArg (· + 1) hb.nextUni, hb.stream⟩
    | false => exact ⟨hb.maxData, hb.maxStreamsBidi, hb.maxStreamsUni,
        congrArg (· + 1) hb.nextBidi, hb.nextUni, hb.stream⟩
  refine hcounted.setStream (Nat.le_refl _) hid ?_ ?_
  · rw [hsent]
    exact Nat.zero_le _
  · rw [hpending]
    exact fun p hp => absurd hp List.not_mem_nil

/-- Every change keeps the values of the entry in range. -/
theorem Trans.bounded (h : Trans .fitting config isServer w l w') (hb : Bounded w) (hl : l.Fits) :
    Bounded w' := by
  cases h with
  | enqueue data fin hfind hsendable hready hfin =>
      refine hb.update hfind rfl ?_
      intro p hp
      rcases List.mem_append.1 hp with hp | hp
      · exact (hb.stream hfind).2.2 p hp
      · rw [List.mem_singleton.1 hp]
        exact hl
  | @sendPart streamId info front rest size hfind hready hpending hsize hsession hstream =>
      rcases hb.stream hfind with ⟨hid, hbytes, hold⟩
      rw [hpending] at hold
      refine hb.setStream (Nat.le_add_right _ _) hid (Nat.add_le_add_right hbytes _) ?_
      intro p hp
      rcases List.mem_cons.1 hp with rfl | hp
      · refine le_trans ?_ (hold front List.mem_cons_self)
        rw [List.length_drop]
        exact Nat.sub_le _ _
      · exact hold p (List.mem_cons_of_mem _ hp)
  | @sendFront streamId info front rest hfind hready hpending hsession hstream =>
      rcases hb.stream hfind with ⟨hid, hbytes, hold⟩
      rw [hpending] at hold
      refine hb.setStream (Nat.le_add_right _ _) hid (Nat.add_le_add_right hbytes _) ?_
      exact fun p hp => hold p (List.mem_cons_of_mem _ hp)
  | clearPending hfind hdone =>
      exact hb.update hfind rfl fun p hp => absurd hp List.not_mem_nil
  | streamDataBlocked hfind hready hpending hexhausted =>
      exact hb.update hfind rfl (hb.stream hfind).2.2
  | reset errorCode hpermit hfind hready =>
      exact hb.update hfind rfl fun p hp => absurd hp List.not_mem_nil
  | release hfind hreleasable => exact hb.dropStream _ _
  | grantStreamData hfind hreceivable hstop hrise hle =>
      exact hb.update hfind rfl (hb.stream hfind).2.2
  | openBidi hcreate hopened hnone => exact hb.opened hcreate false
  | openUni hcreate hopened hnone => exact hb.opened hcreate true
  | @recvStream streamId info fin data hreceivable hreaches hstate hlate hsession hstream =>
      rcases hreaches.fits hb with ⟨hid, hbytes, hpending⟩
      have hcounted : Bounded { w with bytesReceived := w.bytesReceived + data.length } :=
        hb.same rfl rfl rfl rfl
      exact hcounted.setStream (Nat.le_refl _) hid hbytes hpending
  | recvReset hreceivable hreaches hstate =>
      rcases hreaches.fits hb with ⟨hid, hbytes, hpending⟩
      exact hb.setStream (Nat.le_refl _) hid hbytes hpending
  | @recvStop streamId info errorCode hreceivable hfirst hfind =>
      have hrecorded : Bounded (w.recordStopSending streamId) := hb.same rfl rfl rfl rfl
      refine hrecorded.update hfind ?_ (hb.stream hfind).2.2
      rfl
  | recvMaxData hrise =>
      split_ifs with hgt
      · exact ⟨hl, hb.maxStreamsBidi, hb.maxStreamsUni, hb.nextBidi, hb.nextUni, hb.stream⟩
      · exact hb.same rfl rfl rfl rfl
  | @recvMaxStreamData streamId maxData info hreceivable hstop hrise hfind =>
      have hrecorded : Bounded (w.recordMaxStreamData streamId maxData) := hb.same rfl rfl rfl rfl
      split_ifs with hgt
      · refine hrecorded.update hfind ?_ (hb.stream hfind).2.2
        rfl
      · exact hb.same rfl rfl rfl rfl
  | recvMaxStreamsBidi hle hrise =>
      split_ifs
      · exact ⟨hb.maxData, hle, hb.maxStreamsUni, hb.nextBidi, hb.nextUni, hb.stream⟩
      · exact hb.same rfl rfl rfl rfl
  | recvMaxStreamsUni hle hrise =>
      split_ifs
      · exact ⟨hb.maxData, hb.maxStreamsBidi, hle, hb.nextBidi, hb.nextUni, hb.stream⟩
      · exact hb.same rfl rfl rfl rfl
  | _ => exact hb.same rfl rfl rfl rfl

/-- A capsule made of varints only has a payload of at most three of them. -/
theorem varints_length_le {payload : Bytes} (h : payload.length ≤ 24) :
    payload.length ≤ kMaxQuicVarint := le_trans h (by decide)

theorem inRange_stream {streamId : Nat} {data : Bytes} (fin : Bool) (hid : streamId ≤ kMaxQuicVarint)
    (hdata : data.length ≤ kMaxPythonInputBytes) : (Capsule.wtStream fin streamId data).InRange := by
  refine Capsule.inRange_of ?_ ?_
  · intro value hvalue
    rw [List.mem_singleton.1 hvalue]
    exact hid
  · simp only [Capsule.payload, List.length_append]
    have hframed := framed_length_le hdata
    have hvarint := varintBytes_length_le streamId
    omega

theorem inRange_one {c : Capsule} {value : Nat} (hfields : c.varintFields = [value])
    (hpayload : c.payload = varintBytes value) (h : value ≤ kMaxQuicVarint) : c.InRange := by
  refine Capsule.inRange_of ?_ ?_
  · intro value' hvalue'
    rw [hfields] at hvalue'
    rw [List.mem_singleton.1 hvalue']
    exact h
  · rw [hpayload]
    exact varints_length_le (le_trans (varintBytes_length_le value) (by decide))

theorem inRange_two {c : Capsule} {first second : Nat} (hfields : c.varintFields = [first, second])
    (hpayload : c.payload = varintBytes first ++ varintBytes second) (hfirst : first ≤ kMaxQuicVarint)
    (hsecond : second ≤ kMaxQuicVarint) : c.InRange := by
  refine Capsule.inRange_of ?_ ?_
  · intro value hvalue
    rw [hfields] at hvalue
    rcases List.mem_cons.1 hvalue with rfl | hlast
    · exact hfirst
    · rw [List.mem_singleton.1 hlast]
      exact hsecond
  · rw [hpayload]
    refine varints_length_le ?_
    rw [List.length_append]
    have hlen := varintBytes_length_le first
    have hlen' := varintBytes_length_le second
    omega

theorem inRange_reset {streamId errorCode size : Nat} (hid : streamId ≤ kMaxQuicVarint)
    (hcode : errorCode ≤ kMaxQuicVarint) (hsize : size ≤ kMaxQuicVarint) :
    (Capsule.wtResetStream streamId errorCode size).InRange := by
  refine Capsule.inRange_of ?_ ?_
  · intro value hvalue
    simp only [Capsule.varintFields, List.mem_cons, List.not_mem_nil, or_false] at hvalue
    rcases hvalue with rfl | rfl | rfl
    · exact hid
    · exact hcode
    · exact hsize
  · refine varints_length_le ?_
    simp only [Capsule.payload, List.length_append]
    have hlen := varintBytes_length_le streamId
    have hlen' := varintBytes_length_le errorCode
    have hlen'' := varintBytes_length_le size
    omega

/-- What a change queues can be encoded. -/
theorem Trans.inRange {c : Capsule} (h : Trans .fitting config isServer w (.sent c) w')
    (hwf : Wf isServer w) (hb : Bounded w) (hc : c.Given) : c.InRange := by
  cases h with
  | @sendPart streamId info front rest size hfind hready hpending hsize hsession hstream =>
      rcases hb.stream hfind with ⟨hid, -, hold⟩
      rw [hpending] at hold
      refine inRange_stream false hid (le_trans ?_ (hold front List.mem_cons_self))
      rw [List.length_take]
      exact min_le_right _ _
  | @sendFront streamId info front rest hfind hready hpending hsession hstream =>
      rcases hb.stream hfind with ⟨hid, -, hold⟩
      rw [hpending] at hold
      exact inRange_stream front.fin hid (hold front List.mem_cons_self)
  | dataBlocked => exact inRange_one rfl rfl hb.maxData
  | @streamDataBlocked streamId info hfind hready hpending hexhausted =>
      -- The limit may come from WebTransport-Init, but it is announced only once it is used up.
      rcases hb.stream hfind with ⟨hid, hbytes, -⟩
      have hlimit : info.maxStreamDataLocal ≤ kMaxQuicVarint := by
        calc info.maxStreamDataLocal = info.bytesSent := hexhausted.symm
          _ ≤ w.bytesSent := hbytes
          _ ≤ w.maxDataLocal := hwf.sent_le
          _ ≤ kMaxQuicVarint := hb.maxData
      exact inRange_two rfl rfl hid hlimit
  | @reset streamId info errorCode hpermit hfind hready =>
      rcases hb.stream hfind with ⟨hid, hbytes, -⟩
      have hsize : info.bytesSent ≤ kMaxQuicVarint :=
        le_trans hbytes (le_trans hwf.sent_le hb.maxData)
      exact inRange_reset hid (le_trans hc kMaxApplicationErrorCode_le) hsize
  | stop errorCode hpermit hfind hfirst =>
      exact inRange_two rfl rfl (hb.stream hfind).1 (le_trans hc kMaxApplicationErrorCode_le)
  | grantData hrise hle => exact inRange_one rfl rfl hle
  | grantStreamData hfind hreceivable hstop hrise hle =>
      exact inRange_two rfl rfl (hb.stream hfind).1 hle
  | grantStreamsBidi hlt => exact inRange_one rfl rfl (le_trans hlt kMaxStreamsLimit_le)
  | grantStreamsUni hlt => exact inRange_one rfl rfl (le_trans hlt kMaxStreamsLimit_le)
  | streamsBlockedBidi => exact inRange_one rfl rfl (le_trans hb.maxStreamsBidi kMaxStreamsLimit_le)
  | streamsBlockedUni => exact inRange_one rfl rfl (le_trans hb.maxStreamsUni kMaxStreamsLimit_le)
  | sendDatagram data =>
      refine Capsule.inRange_of (fun value hvalue => absurd hvalue List.not_mem_nil) ?_
      exact le_trans hc (by decide)
  | sendDrain =>
      refine Capsule.inRange_of (fun value hvalue => absurd hvalue List.not_mem_nil) ?_
      exact Nat.zero_le _

/-- Along a path whose labels are in range, the entry stays in range and every capsule can be
encoded. -/
theorem path_bounded {ls : List Label} (h : Path (Trans .fitting config isServer) w ls w')
    (hwf : Wf isServer w) (hb : Bounded w) (hls : ∀ l ∈ ls, l.Fits) :
    Bounded w' ∧ ∀ c ∈ Label.sentOf ls, c.InRange := by
  induction ls generalizing w with
  | nil =>
      cases h
      exact ⟨hb, fun c hc => absurd hc List.not_mem_nil⟩
  | cons l ls ih =>
      rcases h with ⟨mid, hstep, hrest⟩
      have hl := hls l List.mem_cons_self
      rcases ih hrest (hstep.wf hwf) (hstep.bounded hb hl)
        (fun l' hl' => hls l' (List.mem_cons_of_mem _ hl')) with ⟨hend, hsent⟩
      refine ⟨hend, ?_⟩
      cases l with
      | sent c =>
          intro c' hc'
          rcases List.mem_cons.1 hc' with rfl | hc'
          · exact hstep.inRange hwf hb hl
          · exact hsent c' hc'
      | accepted streamId data fin => exact hsent
      | received r events => exact hsent
      | internal => exact hsent

end Changes

/-! ## What a session method queues -/

section Judge

variable (config : H2SessionConfig) (isServer : Bool) (w : WtSessionInfo)

theorem judgeStreamData_given (info : WtStreamInfo) (streamId : Nat) (fin : Bool) (data : Bytes) :
    (w.judgeStreamData config info streamId fin data).Given := by
  unfold judgeStreamData
  split_ifs
  · trivial
  · trivial
  · exact acceptStreamData_given _ _ _ _ _ _
  · exact acceptStreamData_given _ _ _ _ _ _

theorem judgeStream_given (fin : Bool) (streamId : Nat) (data : Bytes) :
    (w.judgeStream config isServer fin streamId data).Given := by
  unfold judgeStream
  cases w.streams.find? streamId with
  | some info =>
      dsimp only
      split_ifs
      · trivial
      · exact judgeStreamData_given _ _ _ _ _ _
  | none =>
      dsimp only
      split_ifs
      · trivial
      · exact .nil w
      · trivial
      · trivial
      · exact judgeStreamData_given _ _ _ _ _ _

theorem judgeReset_given (streamId errorCode size : Nat) :
    (w.judgeReset config isServer streamId errorCode size).Given := by
  unfold judgeReset
  cases w.streams.find? streamId <;> dsimp only <;> split_ifs <;>
    first | trivial | exact maybeReleaseStream_given _ _

theorem judgeStopSending_given (streamId : Nat) {errorCode : Nat}
    (hcode : errorCode ≤ kMaxApplicationErrorCode) :
    (w.judgeStopSending isServer streamId errorCode).Given := by
  unfold judgeStopSending
  cases w.streams.find? streamId with
  | some info =>
      dsimp only
      split_ifs
      · trivial
      · trivial
      · exact resetStream_given streamId hcode _
  | none =>
      dsimp only
      split_ifs
      · trivial
      · trivial
      · exact .nil _
      · exact .nil _

theorem judgeMaxStreamData_given (streamId maxData : Nat) :
    (w.judgeMaxStreamData isServer streamId maxData).Given := by
  unfold judgeMaxStreamData
  cases w.streams.find? streamId <;> dsimp only <;> split_ifs <;>
    first | trivial | exact flushPendingSends_given _ | exact .nil _

/-- The only code a received capsule hands on is that of WT_STOP_SENDING. -/
theorem judge_given {r : Received} (hr : r.Fits) : (w.judge config isServer r).Given := by
  cases r with
  | stream fin streamId data => exact judgeStream_given _ _ _ _ _ _
  | resetStream streamId errorCode size => exact judgeReset_given _ _ _ _ _ _
  | stopSending streamId errorCode => exact judgeStopSending_given _ _ _ hr.2
  | maxData maxData =>
      simp only [judge, judgeMaxData]
      split_ifs
      · trivial
      · exact flushPendingSends_given _
      · exact .nil _
  | maxStreamData streamId maxData => exact judgeMaxStreamData_given _ _ _ _
  | maxStreams isBidi maxStreams =>
      simp only [judge, judgeMaxStreams]
      split_ifs <;> first | trivial | exact .nil _
  | streamDataBlocked streamId =>
      simp only [judge, judgeStreamDataBlocked]
      split_ifs <;> first | trivial | exact .nil _
  | streamsBlocked maxStreams =>
      simp only [judge]
      split_ifs <;> first | trivial | exact .nil _
  | datagram data => exact .nil _
  | closeSession errorCode message => trivial
  | drainSession => exact .nil _
  | ignored => exact .nil _

end Judge

end WtSessionInfo

/-- The data of the call passed the size check of its binding. -/
def Op.InRange : Op → Prop
  | .sendStreamData _ data _ => data.length ≤ kMaxPythonInputBytes
  | .sendDatagram data => data.length ≤ kMaxPythonInputBytes
  | _ => True

/-- What a call brings in from outside is in range. -/
def Call.Fits : Call → Prop
  | .request w _ => WtSessionInfo.Bounded w
  | .api op => op.InRange
  | _ => True

namespace SessionScope

open WtSessionInfo (Wf Bounded)

section Adds

variable {sc sc' : SessionScope} {w : WtSessionInfo}

/-- What the callers put into the capsules that were added is in range. -/
def AddsGiven (sc sc' : SessionScope) : Prop :=
  ∀ es, sc'.effects = sc.effects ++ es → ∀ c ∈ Effect.capsules es, c.Given

theorem addsGiven_of {es : List Effect} (heffects : sc'.effects = sc.effects ++ es)
    (h : ∀ c ∈ Effect.capsules es, c.Given) : AddsGiven sc sc' := by
  intro es' hes'
  rw [heffects] at hes'
  rw [← List.append_cancel_left hes']
  exact h

theorem addsGiven_store {q : Queued} (h : q.Given) : AddsGiven sc (sc.store q) := by
  refine addsGiven_of rfl ?_
  rw [capsules_map_capsule]
  exact h

theorem addsGiven_self : AddsGiven sc sc :=
  addsGiven_of (List.append_nil _).symm fun _ hc => absurd hc List.not_mem_nil

theorem addsGiven_onEntry {f : WtSessionInfo → Queued} (h : ∀ w, (f w).Given) :
    AddsGiven sc (sc.onEntry f) := by
  unfold onEntry
  cases sc.entry with
  | none => exact addsGiven_self
  | some w => exact addsGiven_store (h w)

theorem closeSession_addsGiven (errorCode : Nat) (message : Bytes) :
    AddsGiven sc (sc.closeSession errorCode message) := by
  unfold closeSession
  cases sc.entry with
  | none => exact addsGiven_self
  | some w =>
      dsimp only
      split_ifs
      · exact addsGiven_self
      · refine addsGiven_of rfl ?_
        intro c hc
        rw [List.mem_singleton.1 hc]
        trivial

/-- Events in front change nothing. -/
theorem AddsGiven.behind {es : List Effect} (hcapsules : Effect.capsules es = [])
    {sc₁ : SessionScope} (hfront : sc₁.effects = sc.effects ++ es)
    (h : AddsGiven sc₁ sc') (hextends : ∃ es', sc'.effects = sc₁.effects ++ es') :
    AddsGiven sc sc' := by
  rcases hextends with ⟨es', hes'⟩
  refine @addsGiven_of _ _ (es ++ es') ?_ ?_
  · rw [hes', hfront, List.append_assoc]
  · rw [Effect.capsules_append, hcapsules, List.nil_append]
    exact h es' hes'

/-- Reacting to a capsule queues what was read from it. -/
theorem react_addsGiven (hentry : sc.entry = some w) {reading : Reading} (hr : reading.Fits) :
    AddsGiven sc (sc.react w reading) := by
  cases reading with
  | malformed => exact addsGiven_of rfl fun c hc => absurd hc List.not_mem_nil
  | wtError message =>
      exact AddsGiven.behind rfl rfl (closeSession_addsGiven _ _)
        ((closeSession_effects _ _ _).imp fun _ h => h.1)
  | received r =>
      have hreact : sc.react w (.received r) = sc.carryOut (w.judge sc.config sc.isServer r) :=
        receive_eq hentry r
      have hjudge := WtSessionInfo.judge_given sc.config sc.isServer w hr
      rw [hreact]
      cases hverdict : w.judge sc.config sc.isServer r with
      | refuse w' event errorCode message =>
          exact AddsGiven.behind (capsules_events event.toList sc) rfl (closeSession_addsGiven _ _)
            ((closeSession_effects _ _ _).imp fun _ h => h.1)
      | accept before q after =>
          rw [hverdict] at hjudge
          refine addsGiven_of rfl ?_
          rw [Effect.capsules_append, Effect.capsules_append, capsules_events, capsules_events,
            capsules_map_capsule, List.append_nil, List.nil_append]
          exact hjudge
      | close event =>
          refine addsGiven_of (List.append_assoc _ _ _) ?_
          exact fun c hc => absurd hc List.not_mem_nil

theorem code_le (errorCode : UInt32) : errorCode.toNat ≤ kMaxApplicationErrorCode :=
  Nat.le_of_lt_succ errorCode.toNat_lt

/-- The application's calls queue what they were given. -/
theorem step_addsGiven (op : Op) (hop : ∀ c, op ≠ .receive c) (hrange : op.InRange) :
    AddsGiven sc (sc.step op) := by
  cases op with
  | openStream isUnidirectional =>
      exact addsGiven_onEntry fun w => WtSessionInfo.openStream_given _ _ _ w
  | sendStreamData streamId data fin =>
      exact addsGiven_onEntry (WtSessionInfo.sendStreamData_given streamId data fin)
  | resetStream streamId errorCode =>
      unfold step
      dsimp only
      split_ifs
      · exact addsGiven_self
      · exact addsGiven_onEntry (WtSessionInfo.resetStream_given streamId (code_le errorCode))
  | stopSending streamId errorCode =>
      unfold step
      dsimp only
      split_ifs
      · exact addsGiven_self
      · exact addsGiven_onEntry (WtSessionInfo.stopSending_given streamId (code_le errorCode))
  | sendDatagram data => exact addsGiven_onEntry (WtSessionInfo.sendDatagram_given hrange)
  | drainSession => exact addsGiven_onEntry WtSessionInfo.drainSession_given
  | closeSession errorCode message => exact closeSession_addsGiven _ _
  | receive c => exact absurd rfl (hop c)

end Adds

/-! ## Sessions whose values fit -/

/-- The labels of an extension are in range when what was taken in and what was queued is. -/
theorem labels_fit {ls : List Label}
    (haccepted : ∀ a ∈ Label.acceptedOf ls, a.2.1.length ≤ kMaxPythonInputBytes)
    (hreceived : ∀ r ∈ Label.receivedOf ls, r.Fits) (hsent : ∀ c ∈ Label.sentOf ls, c.Given) :
    ∀ l ∈ ls, l.Fits := by
  intro l hl
  cases l with
  | accepted streamId data fin =>
      exact haccepted (streamId, data, fin) (List.mem_filterMap.2 ⟨_, hl, rfl⟩)
  | sent c => exact hsent c (List.mem_filterMap.2 ⟨_, hl, rfl⟩)
  | received r events => exact hreceived r (List.mem_filterMap.2 ⟨_, hl, rfl⟩)
  | internal => trivial

/-- The entry is sound and in range, and everything queued so far could be encoded. -/
structure Fitting (isServer : Bool) (config : H2SessionConfig) (sc : SessionScope) : Prop where
  sound : Sound isServer sc
  config_eq : sc.config = config
  bounded : ∀ w, sc.entry = some w → Bounded w
  capsules : ∀ c ∈ Effect.capsules sc.effects, c.InRange

theorem inRange_close {errorCode : Nat} {message : Bytes}
    (h : message.length ≤ kMaxApplicationErrorMessageBytes) :
    (Capsule.wtCloseSession errorCode message).InRange := by
  refine Capsule.inRange_of (fun value hvalue => absurd hvalue List.not_mem_nil) ?_
  simp only [Capsule.payload, List.length_append]
  have hfour : (Capsule.errorCodeBytes errorCode).length = 4 := rfl
  have hroom : 4 + kMaxApplicationErrorMessageBytes ≤ kMaxQuicVarint := by decide
  omega

theorem bounded_ended {w : WtSessionInfo} (h : Bounded w) : Bounded w.ended :=
  h.same rfl rfl rfl rfl

namespace Fitting

variable {isServer : Bool} {config : H2SessionConfig} {sc sc' : SessionScope} {w w' : WtSessionInfo}

theorem of_stands {entry : Option WtSessionInfo}
    (h : WtSessionInfo.Stands .fitting config isServer w entry) (hb : Bounded w)
    (hentry : entry = some w') : Bounded w' := by
  cases h with
  | live =>
      cases hentry
      exact hb
  | ended =>
      cases hentry
      exact bounded_ended hb
  | refused hcreated =>
      cases hentry
      rcases hcreated.exists_stream with ⟨streamId, hid, -, -, rfl⟩
      rcases WtSessionInfo.newStream_bytesSent w config streamId (isServerId streamId == isServer)
        (isUniId streamId) with ⟨hsent, hpending⟩
      refine bounded_ended (Bounded.setStream hb (Nat.le_refl _) hid ?_ ?_)
      · exact le_of_eq_of_le hsent (Nat.zero_le _)
      · rw [WtSessionInfo.newPeerStream, hpending]
        exact fun p hp => absurd hp List.not_mem_nil
  | gone => cases hentry

/-- What an extension with labels in range adds is in range. -/
theorem of_extends {ls : List Label} (h : Fitting isServer config sc) (hentry : sc.entry = some w)
    (hext : Extends .fitting sc w ls w' sc') (hgiven : AddsGiven sc sc')
    (haccepted : ∀ a ∈ Label.acceptedOf ls, a.2.1.length ≤ kMaxPythonInputBytes)
    (hreceived : ∀ r ∈ Label.receivedOf ls, r.Fits) : Fitting isServer config sc' := by
  have hsound := h.sound.of_extends hext hentry
  rcases hext with ⟨hpath, hstands, hrole, hconfig, -, -, es, heffects, hsends, -⟩
  have hgiven' := hgiven es heffects
  have hsent : ∀ c ∈ Label.sentOf ls, c.Given := by
    intro c hc
    refine hgiven' c ?_
    rcases hsends with heq | ⟨errorCode, message, heq, -⟩
    · rw [heq]
      exact hc
    · rw [heq]
      exact List.mem_append_left _ hc
  have hwf : Wf sc.isServer w := h.sound.1.symm ▸ h.sound.2 w hentry
  rcases WtSessionInfo.path_bounded hpath hwf (h.bounded w hentry)
    (labels_fit haccepted hreceived hsent) with ⟨hb, hrange⟩
  refine ⟨hsound, hconfig.trans h.config_eq, ?_, ?_⟩
  · intro w'' hw''
    exact of_stands hstands hb hw''
  · intro c hc
    rw [heffects, Effect.capsules_append] at hc
    rcases List.mem_append.1 hc with hc | hc
    · exact h.capsules c hc
    · rcases hsends with heq | ⟨errorCode, message, heq, hlength, -⟩
      · rw [heq] at hc
        exact hrange c hc
      · rw [heq] at hc
        rcases List.mem_append.1 hc with hc | hc
        · exact hrange c hc
        · rw [List.mem_singleton.1 hc]
          exact inRange_close hlength

theorem fitting_admits (isServer : Bool) (w : WtSessionInfo) {r : Received} (hr : r.Fits) :
    Permits.fitting.Admits isServer w r := by
  refine ⟨fun _ _ _ _ => trivial, ?_, fun _ _ _ _ _ => trivial⟩
  intro streamId hdata _ _
  cases r with
  | stream fin id data =>
      cases hdata
      exact hr
  | resetStream id errorCode size =>
      cases hdata
      exact hr.1
  | _ => cases hdata

theorem react (h : Fitting isServer config sc) (hentry : sc.entry = some w)
    (hlive : w.isTerminated = false) {reading : Reading} (hr : reading.Fits) :
    Fitting isServer config (sc.react w reading) := by
  have hwf : Wf sc.isServer w := h.sound.1.symm ▸ h.sound.2 w hentry
  have hadmits : ∀ r, reading = .received r → Permits.fitting.Admits sc.isServer w r := by
    rintro r rfl
    exact fitting_admits sc.isServer w hr
  rcases react_extends hentry hwf hlive reading hadmits with ⟨ls, w', hext, hacc, hrecv⟩
  refine h.of_extends hentry hext (react_addsGiven hentry hr) ?_ ?_
  · rw [hacc]
    exact fun a ha => absurd ha List.not_mem_nil
  · rw [hrecv]
    intro r hmem
    cases reading with
    | malformed => exact absurd hmem List.not_mem_nil
    | wtError message => exact absurd hmem List.not_mem_nil
    | received r' =>
        unfold takenIn at hmem
        cases hverdict : w.judge sc.config sc.isServer r' with
        | accept before q after =>
            simp only [hverdict, List.mem_singleton] at hmem
            rw [hmem]
            exact hr
        | refuse w'' event errorCode message =>
            simp [hverdict] at hmem
        | close event => simp [hverdict] at hmem

/-- A change of an entry that leaves its counters and streams alone. -/
theorem setEntry (h : Fitting isServer config sc) (hentry : sc.entry = some w)
    (hdata : w'.maxDataLocal = w.maxDataLocal) (hstreams : w'.streams = w.streams)
    (hsent : w'.bytesSent = w.bytesSent)
    (hcounters : (w'.maxStreamsBidiLocal, w'.maxStreamsUniLocal, w'.nextBidiStreamId,
        w'.streamsBidiOpened, w'.nextUniStreamId, w'.streamsUniOpened) =
      (w.maxStreamsBidiLocal, w.maxStreamsUniLocal, w.nextBidiStreamId, w.streamsBidiOpened,
        w.nextUniStreamId, w.streamsUniOpened)) : Fitting isServer config (sc.setEntry w') := by
  refine ⟨h.sound.setEntry hentry hstreams hsent hdata, h.config_eq, ?_, h.capsules⟩
  intro w'' hw''
  cases hw''
  exact (h.bounded w hentry).same hdata hstreams hsent hcounters

theorem processCapsules (h : Fitting isServer config sc) (data : Bytes) :
    Fitting isServer config (sc.processCapsules data) := by
  refine processCapsules_rule ?_ ?_ ?_ (eachTurn_true _) h
  · intro sc w buffer hentry hinv
    exact hinv.setEntry hentry rfl rfl rfl rfl
  · intro sc type size payload hinv
    refine ⟨hinv.sound, hinv.config_eq, hinv.bounded, ?_⟩
    have hsame : Effect.capsules ((sc.perform (.dispatch type payload)).perform
        (.consumeRecvBytes size)).effects = Effect.capsules sc.effects := by
      simp [SessionScope.perform, Effect.capsules]
    rw [hsame]
    exact hinv.capsules
  · intro sc w buffer r hr hentry hlive _ hinv
    exact hinv.react hentry hlive hr

/-- The application's calls keep everything in range. -/
theorem step (h : Fitting isServer config sc) (op : Op) (hop : ∀ c, op ≠ .receive c)
    (hrange : op.InRange) : Fitting isServer config (sc.step op) := by
  cases hentry : sc.entry with
  | none =>
      rw [(step_gone hentry op).1]
      exact h
  | some w =>
      have hwf : Wf sc.isServer w := h.sound.1.symm ▸ h.sound.2 w hentry
      have hb := h.bounded w hentry
      have hext : ∃ ls w', Extends .fitting sc w ls w' (sc.step op) ∧
          (∀ a ∈ Label.acceptedOf ls, a.2.1.length ≤ kMaxPythonInputBytes) ∧
          Label.receivedOf ls = [] := by
        by_cases hopen : ∃ isUni, op = .openStream isUni
        · rcases hopen with ⟨isUni, rfl⟩
          have hcreate : w.streams.find? (w.nextStreamId sc.isServer isUni) = none →
              w.hasRoom isUni → Permits.fitting.create w (w.nextStreamId sc.isServer isUni) := by
            intro _ hroom
            cases isUni with
            | true =>
                have hid := Bounded.openId_le hroom hb.maxStreamsUni sc.isServer true
                rw [← hb.nextUni] at hid
                exact hid
            | false =>
                have hid := Bounded.openId_le hroom hb.maxStreamsBidi sc.isServer false
                rw [← hb.nextBidi] at hid
                exact hid
          have hemits : WtSessionInfo.Emits .fitting sc.config sc.isServer w
              (w.openStream sc.config sc.isServer isUni).1 :=
            WtSessionInfo.openStream_emits w isUni hcreate
          rcases onEntry_extends (f := fun w => (w.openStream sc.config sc.isServer isUni).1) hentry
            hemits with ⟨ls, w', hext, hacc, hrecv⟩
          refine ⟨ls, w', hext, ?_, hrecv⟩
          rw [hacc]
          exact fun a ha => absurd ha List.not_mem_nil
        · have hpermitted : sc.Permitted .fitting op := by
            intro w' _
            cases op with
            | openStream isUni => exact absurd ⟨isUni, rfl⟩ hopen
            | receive c => exact absurd rfl (hop c)
            | _ => trivial
          rcases api_extends hentry hwf op hop hpermitted with ⟨ls, w', hext, hacc, hrecv⟩
          refine ⟨ls, w', hext, ?_, hrecv⟩
          rw [hacc]
          intro a ha
          cases op with
          | sendStreamData streamId data fin =>
              simp only [acceptedCall, hentry] at ha
              split_ifs at ha
              · rw [List.mem_singleton.1 ha]
                exact hrange
              · exact absurd ha List.not_mem_nil
          | _ => exact absurd ha List.not_mem_nil
      rcases hext with ⟨ls, w', hext, hacc, hrecv⟩
      refine h.of_extends hentry hext (step_addsGiven op hop hrange) hacc ?_
      rw [hrecv]
      exact fun r hr => absurd hr List.not_mem_nil

theorem gone (h : Fitting isServer config sc) (hrole : sc'.isServer = sc.isServer)
    (hconfig : sc'.config = sc.config) (hentry : sc'.entry = none)
    (hcapsules : Effect.capsules sc'.effects = Effect.capsules sc.effects) :
    Fitting isServer config sc' := by
  refine ⟨h.sound.gone hrole hentry, hconfig.trans h.config_eq, ?_, hcapsules ▸ h.capsules⟩
  intro w hw
  rw [hentry] at hw
  cases hw

/-- Effects that queue nothing. -/
theorem quiet (h : Fitting isServer config sc) (es : List Effect)
    (hcapsules : Effect.capsules es = []) :
    Fitting isServer config { sc with effects := sc.effects ++ es } := by
  refine ⟨h.sound, h.config_eq, h.bounded, ?_⟩
  rw [Effect.capsules_append, hcapsules, List.append_nil]
  exact h.capsules

/-- A change of the entry with effects that queue nothing. -/
theorem update (h : Fitting isServer config sc) (hentry : sc.entry = some w)
    (hrole : sc'.isServer = sc.isServer) (hconfig : sc'.config = sc.config)
    (hentry' : sc'.entry = some w')
    (hcapsules : Effect.capsules sc'.effects = Effect.capsules sc.effects)
    (hdata : w'.maxDataLocal = w.maxDataLocal) (hstreams : w'.streams = w.streams)
    (hsent : w'.bytesSent = w.bytesSent)
    (hcounters : (w'.maxStreamsBidiLocal, w'.maxStreamsUniLocal, w'.nextBidiStreamId,
        w'.streamsBidiOpened, w'.nextUniStreamId, w'.streamsUniOpened) =
      (w.maxStreamsBidiLocal, w.maxStreamsUniLocal, w.nextBidiStreamId, w.streamsBidiOpened,
        w.nextUniStreamId, w.streamsUniOpened)) : Fitting isServer config sc' := by
  have hset := h.setEntry hentry hdata hstreams hsent hcounters
  refine ⟨⟨hrole.trans h.sound.1, ?_⟩, hconfig.trans h.config_eq, ?_, hcapsules ▸ h.capsules⟩
  · rw [hentry']
    exact hset.sound.2
  · rw [hentry']
    exact hset.bounded

theorem foldl_pushEvent (h : Fitting isServer config sc) (events : List H2Event) :
    Fitting isServer config (events.foldl pushEvent sc) := by
  induction events generalizing sc with
  | nil => exact h
  | cons e rest ih => exact ih (h.quiet [_] rfl)

/-- The limits of an accepted configuration can be encoded. -/
theorem sendInitialLimits (h : Fitting isServer config sc) (hcheck : config.check = .ok ()) :
    Fitting isServer config sc.sendInitialLimits := by
  rcases H2SessionConfig.check_ok hcheck with ⟨hdata, -, hbidi, huni⟩
  rw [← h.config_eq] at hdata hbidi huni
  refine ⟨h.sound, h.config_eq, h.bounded, ?_⟩
  have hadded : Effect.capsules sc.sendInitialLimits.effects = Effect.capsules sc.effects ++
      [.wtMaxData sc.config.wtInitialMaxData, .wtMaxStreamsBidi sc.config.wtInitialMaxStreamsBidi,
        .wtMaxStreamsUni sc.config.wtInitialMaxStreamsUni] := by
    simp [SessionScope.sendInitialLimits, SessionScope.perform, Effect.capsules]
  intro c hc
  rw [hadded] at hc
  rcases List.mem_append.1 hc with hc | hc
  · exact h.capsules c hc
  · simp only [List.mem_cons, List.not_mem_nil, or_false] at hc
    rcases hc with rfl | rfl | rfl
    · exact WtSessionInfo.inRange_one rfl rfl (le_trans hdata kMaxSettingsValue_le)
    · exact WtSessionInfo.inRange_one rfl rfl (le_trans hbidi kMaxSettingsValue_le)
    · exact WtSessionInfo.inRange_one rfl rfl (le_trans huni kMaxSettingsValue_le)

/-- Every method keeps everything in range. -/
theorem call (h : Fitting isServer config sc) (hcheck : config.check = .ok ()) (c : Call)
    (hallowed : c.Allowed sc.isServer sc.config sc.entry) (hc : c.Fits) :
    Fitting isServer config (sc.call c) := by
  cases c with
  | request w events =>
      suffices hentered : Fitting isServer config (sc.setEntry w) from
        foldl_pushEvent hentered events
      refine ⟨h.sound.call (.request w []) ⟨hallowed.1, by simp⟩, h.config_eq, ?_, h.capsules⟩
      intro w' hw'
      cases hw'
      exact hc
  | recvEstablished data =>
      have hloop := h.processCapsules data
      simp only [SessionScope.call, SessionScope.recvEstablished]
      cases hentry : (sc.processCapsules data).entry with
      | none => exact hloop
      | some w =>
          dsimp only
          split_ifs
          · exact hloop.quiet [_] rfl
          · exact hloop
  | drain => exact h.processCapsules []
  | api op => exact h.step op hallowed hc
  | sendInitialLimits => exact h.sendInitialLimits hcheck
  | establish headers =>
      simp only [SessionScope.call, H2Session.establish]
      cases hentry : sc.entry with
      | none => exact h
      | some w =>
          dsimp only
          refine sendInitialLimits (quiet ?_ [_] rfl) hcheck
          cases (H2Session.lastHeader headers (ascii "webtransport-init")).bind
              H2Session.parseWebtransportInit with
          | none => exact h.setEntry hentry rfl rfl rfl rfl
          | some limits =>
              rcases limits with ⟨u, bl, br⟩
              refine h.setEntry hentry ?_ ?_ ?_ ?_
              all_goals cases u <;> cases bl <;> cases br <;> rfl
  | beRejected status =>
      simp only [SessionScope.call, H2Session.beRejected]
      cases hentry : sc.entry with
      | none => exact h
      | some w =>
          refine h.gone rfl rfl rfl ?_
          simp [SessionScope.pushEvent, SessionScope.perform, Effect.capsules]
  | reject status rv =>
      have hreported : ∀ sc' : SessionScope, Fitting isServer config sc' → sc'.entry = sc.entry →
          Fitting isServer config (H2Session.reject status none sc') := by
        intro sc' hfit hsame
        simp only [H2Session.reject]
        split_ifs
        · refine hfit.gone rfl rfl rfl ?_
          simp [SessionScope.perform, Effect.capsules]
        · cases hentry : sc'.entry with
          | none => exact hfit
          | some w =>
              refine hfit.update hentry rfl rfl rfl ?_ rfl rfl rfl rfl
              simp [SessionScope.perform, SessionScope.setEntry, Effect.capsules]
      cases rv with
      | none => exact hreported sc h rfl
      | some err => exact hreported _ (h.quiet [_] rfl) rfl
  | bufferPreAccept data =>
      rcases hallowed with ⟨w, hentry, -, -⟩
      simp only [SessionScope.call, SessionScope.bufferPreAccept, hentry, Option.map_some]
      exact h.setEntry hentry rfl rfl rfl rfl
  | markEstablished =>
      simp only [SessionScope.call, SessionScope.markEstablished]
      cases hentry : sc.entry with
      | none => exact h.gone rfl rfl rfl rfl
      | some w => exact h.setEntry hentry rfl rfl rfl rfl
  | clearBuffer =>
      simp only [SessionScope.call, SessionScope.clearBuffer]
      cases hentry : sc.entry with
      | none => exact h.gone rfl rfl rfl rfl
      | some w => exact h.setEntry hentry rfl rfl rfl rfl
  | handleEndStream =>
      simp only [SessionScope.call, SessionScope.handleEndStream]
      cases hentry : sc.entry with
      | none => exact h
      | some w =>
          dsimp only
          split_ifs
          · exact h.setEntry hentry rfl rfl rfl rfl
          · exact h
          · simp only [resetStreamForMalformedCapsule, hentry, Option.map_some]
            refine h.update hentry rfl rfl rfl ?_ rfl rfl rfl rfl
            simp [Effect.capsules]
          · refine h.gone rfl rfl rfl ?_
            simp [SessionScope.eraseSession, SessionScope.pushEvent, SessionScope.perform,
              Effect.capsules]
  | terminatePreAcceptEndStreamSession =>
      simp only [SessionScope.call, SessionScope.terminatePreAcceptEndStreamSession]
      cases hentry : sc.entry with
      | none => exact h
      | some w =>
          dsimp only
          split_ifs
          · simp only [resetStreamForMalformedCapsule, hentry, Option.map_some]
            refine h.update hentry rfl rfl rfl ?_ rfl rfl rfl rfl
            simp [Effect.capsules]
          · refine h.gone rfl rfl rfl ?_
            simp [SessionScope.eraseSession, SessionScope.pushEvent, SessionScope.perform,
              Effect.capsules]
  | streamClose errorCode =>
      simp only [SessionScope.call, closeStream]
      cases hentry : sc.entry with
      | none =>
          refine h.gone rfl rfl hentry ?_
          simp [SessionScope.perform, Effect.capsules]
      | some w =>
          refine h.gone rfl rfl rfl ?_
          simp [SessionScope.pushEvent, SessionScope.perform, Effect.capsules]

end Fitting

end SessionScope

/-! ## The peer's settings -/

/-- The limits of the peer's SETTINGS are 32-bit values. -/
structure PeerSettings.InRange (peer : PeerSettings) : Prop where
  maxData : peer.wtInitialMaxData ≤ kMaxSettingsValue
  maxStreamsBidi : peer.wtInitialMaxStreamsBidi ≤ kMaxSettingsValue
  maxStreamsUni : peer.wtInitialMaxStreamsUni ≤ kMaxSettingsValue

namespace H2Session

theorem inScope_peer (s : H2Session) (sessionId : Int) (f : SessionScope → SessionScope) :
    (s.inScope sessionId f).peer = s.peer := (inScope_kept s sessionId f).2.2.2

theorem consumeConnectionRecvBytes_peer (s : H2Session) (size : Nat) :
    (s.consumeConnectionRecvBytes size).peer = s.peer :=
  congrArg (fun k => k.2.2.2.2.2) (consumeConnectionRecvBytes_kept s size)

theorem onWrite_peer (s : H2Session) (callback : WriteCallback) :
    (s.onWrite callback).peer = s.peer := by
  cases callback with
  | readData streamId =>
      simp only [onWrite, onReadData]
      cases s.http2StreamBuffers.find? streamId <;> dsimp only <;> split <;> split_ifs <;> rfl
  | writeStreamDataOffset streamId offset len =>
      simp only [onWrite, onWriteStreamDataOffset]
      split_ifs
      · rfl
      · cases s.http2StreamBuffers.find? streamId <;> rfl
  | streamClose streamId errorCode => exact inScope_peer _ _ _

theorem flushOutput_peer (s : H2Session) (callbacks : List WriteCallback) :
    (s.flushOutput callbacks).peer = s.peer := by
  have hfold : ∀ s : H2Session, (callbacks.foldl onWrite s).peer = s.peer := by
    induction callbacks with
    | nil => exact fun s => rfl
    | cons callback rest ih => exact fun s => (ih _).trans (onWrite_peer s callback)
  unfold flushOutput
  split_ifs
  · rfl
  · exact hfold s

theorem rejectSession_peer (s : H2Session) (sessionId status : Int) (rv : Option NgError) :
    (s.orElse (s.rejectSession sessionId status rv)).peer = s.peer := by
  unfold rejectSession
  split_ifs
  · rfl
  · rfl
  · rfl
  · rfl
  · exact inScope_peer _ _ _

theorem rejectInCallback_peer (s : H2Session) (sessionId status : Int) (rv : Option NgError) :
    (s.rejectInCallback sessionId status rv).peer = s.peer := by
  have hpeer := rejectSession_peer s sessionId status rv
  unfold rejectInCallback
  cases hresult : s.rejectSession sessionId status rv with
  | ok s' =>
      rw [hresult] at hpeer
      exact hpeer
  | error message => rfl

theorem onEndHeaders_peer (s : H2Session) (streamId : Int) (rv : Option NgError) :
    (s.onEndHeaders streamId rv).peer = s.peer := by
  unfold onEndHeaders
  cases s.pendingHeaders.find? streamId with
  | none => rfl
  | some headers =>
      dsimp only
      split_ifs
      · unfold onRequestHeaders
        dsimp only
        split_ifs
        · exact rejectInCallback_peer _ _ _ _
        · split
          · exact rejectInCallback_peer _ _ _ _
          · exact inScope_peer _ _ _
        · exact rejectInCallback_peer _ _ _ _
      · unfold onResponseHeaders
        dsimp only
        split_ifs
        · exact inScope_peer _ _ _
        · exact inScope_peer _ _ _
        · rfl

theorem onRecvData_peer (s : H2Session) (streamId : Int) (data : Bytes) (rv : Option NgError) :
    (s.onRecvData streamId data rv).peer = s.peer := by
  unfold onRecvData
  dsimp only
  cases s.wtSessions.find? streamId with
  | none => exact consumeConnectionRecvBytes_peer _ _
  | some w =>
      dsimp only
      split_ifs
      · exact consumeConnectionRecvBytes_peer _ _
      · rfl
      · exact inScope_peer _ _ _
      · rfl
      · exact rejectInCallback_peer _ _ _ _
      · exact inScope_peer _ _ _

theorem acceptSession_peer (s : H2Session) (sessionId : Int) (rv : Option NgError)
    (flush resetFlush : List WriteCallback) :
    (s.acceptSession sessionId rv flush resetFlush).1.peer = s.peer := by
  unfold acceptSession
  split_ifs
  · rfl
  · cases rv with
    | some err => exact inScope_peer _ _ _
    | none =>
        have hdrained : ((s.callNg (.submitResponse sessionId (acceptHeaders s.config))
            ).drainAccepted sessionId flush).peer = s.peer := by
          unfold drainAccepted
          rw [inScope_peer, flushOutput_peer, inScope_peer]
          rfl
        refine Eq.trans ?_ hdrained
        dsimp only
        unfold finishAccept
        split
        · rfl
        · split_ifs
          · rfl
          · rw [flushOutput_peer, inScope_peer]
          · exact inScope_peer _ _ _
          · exact inScope_peer _ _ _

/-- The input is one the code can receive: a SETTINGS value has 32 bits, and the data of a call
passed the size check of its binding. -/
def Input.InRange : Input → Prop
  | .recvSettingsEntry _ value => value < 2 ^ 32
  | .sendStreamData _ _ data _ =>
      checkPythonInputSize "send_stream_data data" data.length = .ok ()
  | .sendDatagram _ data => checkPythonInputSize "send_datagram data" data.length = .ok ()
  | _ => True

/-- The settings stay in range. -/
theorem step_peer {s : H2Session} {input : Input} (h : s.peer.InRange) (hinput : input.InRange) :
    (s.step input).peer.InRange := by
  have hsame : (s.step input).peer = s.peer → (s.step input).peer.InRange := fun heq => heq ▸ h
  cases input with
  | recvSettingsEntry id value =>
      have hvalue : value ≤ kMaxSettingsValue := Nat.le_sub_one_of_lt hinput
      simp only [step, onRecvSettingsEntry]
      split_ifs
      all_goals
        first
        | exact ⟨h.maxData, h.maxStreamsBidi, h.maxStreamsUni⟩
        | exact ⟨hvalue, h.maxStreamsBidi, h.maxStreamsUni⟩
        | exact ⟨h.maxData, hvalue, h.maxStreamsUni⟩
        | exact ⟨h.maxData, h.maxStreamsBidi, hvalue⟩
  | endHeaders streamId rv => exact hsame (onEndHeaders_peer s streamId rv)
  | recvData streamId data rv => exact hsame (onRecvData_peer s streamId data rv)
  | remoteEndStream streamId => exact hsame (inScope_peer _ _ _)
  | write callback => exact hsame (onWrite_peer s callback)
  | connect url origin streamId flush =>
      refine hsame ?_
      simp only [step, connect]
      cases parseAuthorityPath url with
      | none => split_ifs <;> rfl
      | some target =>
          dsimp only
          split_ifs
          · rfl
          · rfl
          · rfl
          · rfl
          · rw [flushOutput_peer, inScope_peer]
            rfl
  | acceptSession sessionId rv flush resetFlush =>
      exact hsame (acceptSession_peer s sessionId rv flush resetFlush)
  | rejectSession sessionId status rv => exact hsame (rejectSession_peer s sessionId status rv)
  | openStream sessionId isUnidirectional =>
      refine hsame ?_
      simp only [step, openStream]
      cases s.wtSessions.find? sessionId with
      | none => rfl
      | some w => exact inScope_peer _ _ _
  | sendStreamData sessionId streamId data fin => exact hsame (inScope_peer _ _ _)
  | resetStream sessionId streamId errorCode =>
      refine hsame ?_
      simp only [step, resetStream]
      split_ifs
      · rfl
      · rw [orElse]
        exact inScope_peer _ _ _
  | stopSending sessionId streamId errorCode =>
      refine hsame ?_
      simp only [step, stopSending]
      split_ifs
      · rfl
      · rw [orElse]
        exact inScope_peer _ _ _
  | sendDatagram sessionId data => exact hsame (inScope_peer _ _ _)
  | closeSession sessionId errorCode message => exact hsame (inScope_peer _ _ _)
  | drainSession sessionId => exact hsame (inScope_peer _ _ _)
  | nextEvent =>
      refine hsame ?_
      simp only [step, nextEvent]
      cases s.events <;> rfl
  | _ => exact h

/-! ## Whole runs -/

theorem newSession_bounded {peer : PeerSettings} (h : peer.InRange) (config : H2SessionConfig)
    (sessionId : Int) : (newSession peer config sessionId).Bounded := by
  have hlimit : kMaxSettingsValue ≤ kMaxStreamsLimit := by decide
  refine ⟨le_trans h.maxData kMaxSettingsValue_le, le_trans h.maxStreamsBidi hlimit,
    le_trans h.maxStreamsUni hlimit, rfl, rfl, ?_⟩
  intro streamId info hfind
  cases hfind

/-- WebTransport-Init only reaches the credit of streams that are created later. -/
theorem applyInitLimits_bounded {w : WtSessionInfo} (h : w.Bounded) (limits : InitLimits) :
    (applyInitLimits w limits).Bounded := by
  rcases limits with ⟨u, bl, br⟩
  cases u <;> cases bl <;> cases br <;> exact h.same rfl rfl rfl rfl

theorem requestedSession_bounded {s : H2Session} (h : s.peer.InRange) {streamId : Int}
    {headers : HeaderList} {w : WtSessionInfo}
    (hrequested : s.requestedSession streamId headers = some w) : w.Bounded := by
  have hnew := newSession_bounded h s.config streamId
  unfold requestedSession at hrequested
  cases hinit : lastHeader headers (ascii "webtransport-init") with
  | none =>
      rw [hinit] at hrequested
      cases hrequested
      exact hnew
  | some value =>
      rw [hinit] at hrequested
      rcases Option.map_eq_some_iff.1 hrequested with ⟨limits, -, rfl⟩
      exact applyInitLimits_bounded hnew limits

/-- Every call of the list brings in values in range. -/
def AllFit (calls : List Call) : Prop := ∀ c ∈ calls, c.Fits

theorem allFit_nil : AllFit [] := fun _ hc => absurd hc List.not_mem_nil

theorem AllFit.append {calls calls' : List Call} (h : AllFit calls) (h' : AllFit calls') :
    AllFit (calls ++ calls') := by
  intro c hc
  rcases List.mem_append.1 hc with hc | hc
  · exact h c hc
  · exact h' c hc

theorem allFit_onSession (sessionId streamId : Int) {c : Call} (h : c.Fits) :
    AllFit (onSession sessionId streamId c) := by
  unfold onSession
  split_ifs
  · intro c' hc'
    rw [List.mem_singleton.1 hc']
    exact h
  · exact allFit_nil

theorem allFit_closesOf (sessionId : Int) (callbacks : List WriteCallback) :
    AllFit (closesOf sessionId callbacks) := by
  intro c hc
  rcases List.mem_flatMap.1 hc with ⟨callback, -, hc⟩
  cases callback with
  | streamClose streamId errorCode =>
      have hclose : AllFit (onSession sessionId streamId (.streamClose errorCode)) :=
        allFit_onSession _ _ trivial
      exact hclose c hc
  | readData streamId => exact absurd hc List.not_mem_nil
  | writeStreamDataOffset streamId offset len => exact absurd hc List.not_mem_nil

theorem allFit_flushCalls (s : H2Session) (sessionId : Int) (flush : List WriteCallback) :
    AllFit (s.flushCalls sessionId flush) := by
  unfold flushCalls
  split_ifs
  · exact allFit_nil
  · exact allFit_closesOf _ _

theorem allFit_rejectCalls (s : H2Session) (sessionId streamId status : Int) (rv : Option NgError) :
    AllFit (s.rejectCalls sessionId streamId status rv) := by
  unfold rejectCalls
  split_ifs
  · exact allFit_onSession _ _ trivial
  · exact allFit_nil

theorem allFit_headerCalls {s : H2Session} (h : s.peer.InRange) (sessionId streamId : Int)
    (rv : Option NgError) : AllFit (s.headerCalls sessionId streamId rv) := by
  unfold headerCalls
  cases s.pendingHeaders.find? streamId with
  | none => exact allFit_nil
  | some headers =>
      dsimp only
      split_ifs
      · unfold requestCalls
        split_ifs
        · exact allFit_rejectCalls _ _ _ _ _
        · cases hrequested : s.requestedSession streamId headers with
          | none => exact allFit_rejectCalls _ _ _ _ _
          | some w => exact allFit_onSession _ _ (requestedSession_bounded h hrequested)
        · exact allFit_rejectCalls _ _ _ _ _
      · unfold responseCalls
        dsimp only
        split_ifs
        · exact allFit_onSession _ _ trivial
        · exact allFit_onSession _ _ trivial
        · exact allFit_nil

theorem allFit_dataCalls (s : H2Session) (sessionId streamId : Int) (data : Bytes)
    (rv : Option NgError) : AllFit (s.dataCalls sessionId streamId data rv) := by
  unfold dataCalls
  cases s.wtSessions.find? streamId with
  | none => exact allFit_nil
  | some w =>
      dsimp only
      split_ifs
      · exact allFit_nil
      · exact allFit_nil
      · exact allFit_onSession _ _ trivial
      · exact allFit_nil
      · exact allFit_rejectCalls _ _ _ _ _
      · exact allFit_onSession _ _ trivial

theorem allFit_acceptCalls (s : H2Session) (sessionId streamId : Int) (rv : Option NgError)
    (flush resetFlush : List WriteCallback) :
    AllFit (s.acceptCalls sessionId streamId rv flush resetFlush) := by
  have hfinish : ∀ s : H2Session, AllFit (s.finishCalls sessionId streamId resetFlush) := by
    intro s
    unfold finishCalls
    cases s.wtSessions.find? streamId with
    | none => exact allFit_nil
    | some w =>
        dsimp only
        split_ifs
        · exact allFit_nil
        · exact AllFit.append (allFit_onSession _ _ trivial) (allFit_flushCalls _ _ _)
        · exact AllFit.append (allFit_onSession _ _ trivial) allFit_nil
        · exact allFit_onSession _ _ trivial
  unfold acceptCalls
  split_ifs
  · exact allFit_nil
  · cases rv with
    | some err => exact allFit_onSession _ _ trivial
    | none =>
        refine AllFit.append (AllFit.append (AllFit.append ?_ (allFit_flushCalls _ _ _)) ?_)
          (hfinish _)
        · exact allFit_onSession _ _ trivial
        · exact allFit_onSession _ _ trivial

theorem allFit_connectCalls {s : H2Session} (h : s.peer.InRange) (sessionId : Int) (url : Bytes)
    (streamId : Int) (flush : List WriteCallback) :
    AllFit (s.connectCalls sessionId url streamId flush) := by
  unfold connectCalls
  cases parseAuthorityPath url with
  | none => split_ifs <;> exact allFit_nil
  | some target =>
      dsimp only
      split_ifs
      · exact allFit_nil
      · exact allFit_nil
      · exact allFit_nil
      · exact allFit_nil
      · refine AllFit.append (allFit_onSession _ _ ?_) (allFit_flushCalls _ _ _)
        exact newSession_bounded h s.config streamId

/-- The calls of an input bring in what the input does. -/
theorem allFit_callsOf {s : H2Session} {input : Input} (h : s.peer.InRange)
    (hinput : input.InRange) (sessionId : Int) : AllFit (s.callsOf sessionId input) := by
  cases input with
  | endHeaders streamId rv => exact allFit_headerCalls h sessionId streamId rv
  | recvData streamId data rv => exact allFit_dataCalls s sessionId streamId data rv
  | remoteEndStream streamId => exact allFit_onSession _ _ trivial
  | write callback => exact allFit_closesOf _ _
  | connect url origin streamId flush => exact allFit_connectCalls h sessionId url streamId flush
  | acceptSession streamId rv flush resetFlush => exact allFit_acceptCalls _ _ _ _ _ _
  | rejectSession streamId status rv => exact allFit_rejectCalls _ _ _ _ _
  | openStream streamId isUni => exact allFit_onSession _ _ trivial
  | sendStreamData streamId id data fin =>
      exact allFit_onSession _ _ (checkPythonInputSize_ok hinput)
  | resetStream streamId id errorCode => exact allFit_onSession _ _ trivial
  | stopSending streamId id errorCode => exact allFit_onSession _ _ trivial
  | sendDatagram streamId data => exact allFit_onSession _ _ (checkPythonInputSize_ok hinput)
  | closeSession streamId errorCode message => exact allFit_onSession _ _ trivial
  | drainSession streamId => exact allFit_onSession _ _ trivial
  | _ => exact allFit_nil

theorem allFit_runCalls {s : H2Session} {inputs : List Input} (h : s.peer.InRange)
    (hinputs : ∀ input ∈ inputs, input.InRange) (sessionId : Int) :
    AllFit (s.runCalls sessionId inputs) := by
  induction inputs generalizing s with
  | nil => exact allFit_nil
  | cons input rest ih =>
      have hfirst := hinputs input List.mem_cons_self
      refine (allFit_callsOf h hfirst sessionId).append (ih (step_peer h hfirst) ?_)
      exact fun i hi => hinputs i (List.mem_cons_of_mem _ hi)

/-- Along calls that bring in values in range, everything a session queues can be encoded. -/
theorem path_in_range {isServer : Bool} {config : H2SessionConfig} {sessionId : Int} {v v' : View}
    {calls : List Call} (hpath : Path (Called isServer config sessionId) v calls v')
    (hcheck : config.check = .ok ()) (hcalls : AllFit calls)
    (hwf : ∀ w, v.entry = some w → WtSessionInfo.Wf isServer w)
    (hb : ∀ w, v.entry = some w → w.Bounded)
    (hrange : ∀ c ∈ Effect.capsules v.effects, c.InRange) :
    ∀ c ∈ Effect.capsules v'.effects, c.InRange := by
  induction calls generalizing v with
  | nil =>
      cases hpath
      exact hrange
  | cons c rest ih =>
      rcases hpath with ⟨mid, ⟨hallowed, rfl⟩, hrest⟩
      have hfit : SessionScope.Fitting isServer config
          { isServer := isServer, config := config, sessionId := sessionId, entry := v.entry } :=
        ⟨⟨rfl, hwf⟩, rfl, hb, fun c hc => absurd hc List.not_mem_nil⟩
      have hnext := hfit.call hcheck c hallowed (hcalls c List.mem_cons_self)
      refine ih hrest (fun c' hc' => hcalls c' (List.mem_cons_of_mem _ hc')) hnext.sound.2
        hnext.bounded ?_
      intro c' hc'
      have hsplit : c' ∈ Effect.capsules v.effects ++ Effect.capsules
          (SessionScope.call c { isServer := isServer, config := config, sessionId := sessionId,
                                 entry := v.entry }).effects := by
        rw [← Effect.capsules_append]
        exact hc'
      rcases List.mem_append.1 hsplit with hc' | hc'
      · exact hrange c' hc'
      · exact hnext.capsules c' hc'

/-- For every accepted configuration and every run, each value passed to `encode_quic_varint` for a
capsule of the session fits, so the call returns. -/
theorem all_in_range {isServer : Bool} {config : H2SessionConfig} {s : H2Session}
    (hcreate : create isServer config = .ok s) {inputs : List Input}
    (hinputs : ∀ input ∈ inputs, input.InRange) {sessionId : Int} {c : Capsule}
    (hqueued : (sessionId, Effect.capsule c) ∈ (s.run inputs).trace) :
    ∀ value ∈ c.encoded,
      value ≤ kMaxQuicVarint ∧ encodeQuicVarint value = .ok (varintBytes value) := by
  have hstart : s.peer.InRange ∧ config.check = .ok () := by
    unfold create at hcreate
    cases hcheck : config.check with
    | error message =>
        rw [hcheck] at hcreate
        cases hcreate
    | ok u =>
        rw [hcheck] at hcreate
        cases hcreate
        exact ⟨⟨Nat.zero_le _, Nat.zero_le _, Nat.zero_le _⟩, rfl⟩
  have hrange := path_in_range (created_run hcreate sessionId inputs) hstart.2
    (allFit_runCalls hstart.1 hinputs sessionId) (fun w hw => by cases hw) (fun w hw => by cases hw)
    (fun c hc => absurd hc List.not_mem_nil)
  have hmem : c ∈ Effect.capsules ((s.run inputs).view sessionId).effects := by
    refine List.mem_filterMap.2 ⟨.capsule c, ?_, rfl⟩
    exact List.mem_filterMap.2 ⟨(sessionId, .capsule c), hqueued, if_pos rfl⟩
  intro value hvalue
  have hle := hrange c hmem value hvalue
  exact ⟨hle, if_neg (not_lt.2 hle)⟩

/-- A peer that announces the largest WebTransport-Init value a `uint64_t` holds and then leaves the
session without credit. -/
def hugeInit : List Input :=
  [.beginHeaders 1, .recvHeader 1 (ascii ":method") (ascii "CONNECT"),
    .recvHeader 1 (ascii ":protocol") (ascii "webtransport"),
    .recvHeader 1 (ascii "webtransport-init") (ascii "bl=18446744073709551615"),
    .endHeaders 1 none, .acceptSession 1 none [] [],
    .recvData 1 (encodeCapsule CapsuleType.wtStream.toNat (varintBytes 0 ++ [7])) none,
    .sendStreamData 1 0 [1, 2] false]

theorem all_in_range_huge_init :
    create true {} = .ok { isServer := true, config := {} } ∧
      (1, Effect.capsule (.wtDataBlocked 0)) ∈ (run { isServer := true, config := {} } hugeInit).trace ∧
      ∀ value ∈ (Capsule.wtDataBlocked 0).encoded,
        value ≤ kMaxQuicVarint ∧ encodeQuicVarint value = .ok (varintBytes value) := by
  have hcreate : create true {} = .ok { isServer := true, config := {} } := rfl
  have hinputs : ∀ input ∈ hugeInit, input.InRange := by
    intro input hinput
    simp only [hugeInit, List.mem_cons, List.not_mem_nil, or_false] at hinput
    rcases hinput with rfl | rfl | rfl | rfl | rfl | rfl | rfl | rfl <;> trivial
  have hqueued : (1, Effect.capsule (.wtDataBlocked 0)) ∈
      (run { isServer := true, config := {} } hugeInit).trace := by decide +kernel
  exact ⟨hcreate, hqueued, all_in_range hcreate hinputs hqueued⟩

end H2Session

end H2
end WebTransport
