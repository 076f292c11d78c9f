import WebTransport.H2.Varints

/-!
# H2.Prompts — what prompts a higher limit on a stream

`maybe_send_max_stream_data` is reached from the handler of WT_STREAM only.  So an endpoint raises
the limit of a stream only behind data on that stream: no call of the application does it, and no
other capsule.

* `Queued.Raises`     : the streams whose limit is raised by what is queued;
* `sendStreamData_raises` and its siblings : the calls of the application raise none;
* `judge_raises`      : an accepted capsule raises that of the stream whose data it carries.
-/

namespace WebTransport
namespace H2

open Bindings

/-- The stream whose limit the capsule raises. -/
def Capsule.raised : Capsule → Option Nat
  | .wtMaxStreamData streamId _ => some streamId
  | _ => none

/-- WT_MAX_STREAM_DATA is queued for these streams only. -/
def Queued.Raises (streams : Nat → Prop) (q : Queued) : Prop :=
  ∀ c ∈ q.2, ∀ id, c.raised = some id → streams id

namespace Queued.Raises

variable {streams : Nat → Prop}

theorem nil (w : WtSessionInfo) : Queued.Raises streams (w, []) :=
  fun _ hc => absurd hc List.not_mem_nil

theorem one {c : Capsule} (w : WtSessionInfo) (h : ∀ id, c.raised = some id → streams id) :
    Queued.Raises streams (w, [c]) := by
  intro c' hc'
  rw [List.mem_singleton.1 hc']
  exact h

/-- A capsule of another kind. -/
theorem other {c : Capsule} (w : WtSessionInfo) (h : c.raised = none) :
    Queued.Raises streams (w, [c]) := by
  refine one w ?_
  intro id hid
  rw [h] at hid
  cases hid

theorem andThen {q : Queued} {f : WtSessionInfo → Queued} (h : q.Raises streams)
    (hf : ∀ w, Queued.Raises streams (f w)) : (q.andThen f).Raises streams := by
  intro c hc
  rcases List.mem_append.1 hc with hc | hc
  · exact h c hc
  · exact hf q.1 c hc

end Queued.Raises

/-- What an accepted capsule makes the session queue raises the limits of these streams only. -/
def Verdict.Raises (streams : Nat → Prop) : Verdict → Prop
  | .accept _ q _ => q.Raises streams
  | _ => True

namespace WtSessionInfo

section Raises

variable {streams : Nat → Prop}

theorem maybeSendMaxData_raises (config : H2SessionConfig) (w : WtSessionInfo) :
    (w.maybeSendMaxData config).Raises streams := by
  unfold maybeSendMaxData
  dsimp only
  split_ifs <;> first | exact .nil w | exact .other _ rfl

theorem maybeSendMaxStreamData_raises (config : H2SessionConfig) {streamId : Nat}
    (hid : streams streamId) (w : WtSessionInfo) :
    (w.maybeSendMaxStreamData config streamId).Raises streams := by
  have hself : ∀ limit id, (Capsule.wtMaxStreamData streamId limit).raised = some id →
      streams id := by
    intro limit id heq
    cases heq
    exact hid
  unfold maybeSendMaxStreamData
  cases w.streams.find? streamId <;> dsimp only <;> split_ifs <;>
    first | exact .nil w | exact .one _ (hself _)

theorem replenishStreams_raises (isUni : Bool) (w : WtSessionInfo) :
    (w.replenishStreams isUni).Raises streams := by
  unfold replenishStreams
  split_ifs <;> first | exact .nil w | exact .other _ rfl

theorem maybeReleaseStream_raises (streamId : Nat) (w : WtSessionInfo) :
    (w.maybeReleaseStream streamId).Raises streams := by
  unfold maybeReleaseStream
  cases w.streams.find? streamId with
  | none => exact .nil w
  | some info =>
      dsimp only
      split_ifs
      · exact .nil _
      · exact replenishStreams_raises _ _
      · exact .nil w

theorem finishRecv_raises (streamId : Nat) (w : WtSessionInfo) :
    (w.finishRecv streamId).Raises streams := by
  unfold finishRecv
  cases w.streams.find? streamId with
  | none => exact .nil w
  | some info => exact maybeReleaseStream_raises _ _

theorem acceptStreamData_raises (config : H2SessionConfig) {streamId : Nat}
    (hid : streams streamId) (info : WtStreamInfo) (fin : Bool) (size : Nat) (w : WtSessionInfo) :
    (w.acceptStreamData config streamId info fin size).Raises streams := by
  have hreplenished : (((w.countReceived streamId info size).maybeSendMaxData config).andThen
      (maybeSendMaxStreamData config streamId)).Raises streams :=
    .andThen (maybeSendMaxData_raises _ _) (maybeSendMaxStreamData_raises _ hid)
  unfold acceptStreamData
  dsimp only
  split_ifs
  · exact .andThen hreplenished (finishRecv_raises _)
  · exact hreplenished

/-- The inner loop of the flush queues stream data only. -/
theorem flushLoop_raises (streamId sessionLimit streamLimit : Nat) (pending : List PendingSend)
    (sessionSent streamSent : Nat) :
    ∀ c ∈ (flushLoop streamId sessionLimit streamLimit pending sessionSent streamSent).capsules,
      ∀ id, c.raised = some id → streams id := by
  induction pending generalizing sessionSent streamSent with
  | nil => exact fun c hc => absurd hc List.not_mem_nil
  | cons front rest ih =>
      intro c hc
      have hstream : ∀ (fin : Bool) (data : Bytes) (id : Nat),
          (Capsule.wtStream fin streamId data).raised = some id → streams id := by
        intro fin data id hid
        cases hid
      unfold flushLoop at hc
      dsimp only at hc
      split_ifs at hc with hzero hshort hfin
      · exact absurd hc List.not_mem_nil
      · rw [List.mem_singleton.1 hc]
        exact hstream _ _
      · rw [List.mem_singleton.1 hc]
        exact hstream _ _
      · rcases List.mem_cons.1 hc with rfl | hc
        · exact hstream _ _
        · exact ih _ _ c hc

theorem flushStream_raises (streamId : Nat) (w : WtSessionInfo) :
    (w.flushStream streamId).Raises streams := by
  unfold flushStream
  cases w.streams.find? streamId with
  | none => exact .nil w
  | some info =>
      have hloop : Queued.Raises streams (w.afterFlush streamId info (w.runFlushLoop streamId info),
          (w.runFlushLoop streamId info).capsules) := flushLoop_raises _ _ _ _ _ _
      dsimp only
      split_ifs
      · exact .nil _
      · exact .andThen hloop (maybeReleaseStream_raises streamId)
      · exact hloop

theorem flushWalk_raises (ids : List Nat) (w : WtSessionInfo) :
    (flushWalk ids w).Raises streams := by
  induction ids generalizing w with
  | nil => exact .nil w
  | cons streamId rest ih => exact .andThen (flushStream_raises streamId w) ih

theorem flushRounds_raises (fuel : Nat) (w : WtSessionInfo) :
    (flushRounds fuel w).Raises streams := by
  induction fuel generalizing w with
  | zero => exact .nil w
  | succ fuel ih =>
      unfold flushRounds
      dsimp only
      split_ifs
      · exact flushWalk_raises _ _
      · exact .andThen (flushWalk_raises _ _) ih

theorem flushPendingSends_raises (w : WtSessionInfo) : w.flushPendingSends.Raises streams := by
  unfold flushPendingSends
  split_ifs
  · exact .nil w
  · exact flushRounds_raises _ _

/-! ## The application's calls -/

theorem openStream_raises (config : H2SessionConfig) (isServer isUnidirectional : Bool)
    (w : WtSessionInfo) : (w.openStream config isServer isUnidirectional).1.Raises streams := by
  unfold openStream
  dsimp only
  split_ifs <;> first | exact .nil _ | exact .other _ rfl

theorem sendBlocked_raises (w : WtSessionInfo) (info : WtStreamInfo) (streamId : Nat) (data : Bytes)
    (fin : Bool) (sessionAvail streamAvail : Nat) :
    (w.sendBlocked info streamId data fin sessionAvail streamAvail).Raises streams := by
  have hnone : ∀ c : Capsule, c.raised = none → ∀ id, c.raised = some id → streams id := by
    intro c hc id hid
    rw [hc] at hid
    cases hid
  intro c hc
  unfold sendBlocked at hc
  simp only [List.mem_append] at hc
  rcases hc with (hc | hc) | hc <;> split_ifs at hc <;>
    first | (rw [List.mem_singleton.1 hc]; exact hnone _ rfl) | exact absurd hc List.not_mem_nil

theorem sendWhole_raises (w : WtSessionInfo) (info : WtStreamInfo) (streamId : Nat) (data : Bytes)
    (fin : Bool) : (w.sendWhole info streamId data fin).Raises streams := by
  unfold sendWhole
  dsimp only
  split_ifs
  · exact .andThen (.other _ rfl) (maybeReleaseStream_raises streamId)
  · exact .other _ rfl

theorem sendStreamData_raises (streamId : Nat) (data : Bytes) (fin : Bool) (w : WtSessionInfo) :
    (w.sendStreamData streamId data fin).Raises streams := by
  unfold sendStreamData
  split_ifs
  · exact .nil w
  · cases w.streams.find? streamId with
    | none => exact .nil w
    | some info =>
        dsimp only
        cases info.pendingSends.getLast? with
        | some last =>
            dsimp only
            split_ifs <;> exact .nil _
        | none =>
            dsimp only
            split_ifs
            · exact .nil w
            · exact .nil w
            · exact sendBlocked_raises _ _ _ _ _ _ _
            · exact sendWhole_raises _ _ _ _ _

theorem resetStream_raises (streamId errorCode : Nat) (w : WtSessionInfo) :
    (w.resetStream streamId errorCode).Raises streams := by
  unfold resetStream
  split_ifs
  · exact .nil w
  · cases w.streams.find? streamId with
    | none => exact .nil w
    | some info =>
        dsimp only
        split_ifs
        · exact .nil w
        · exact .andThen (.other _ rfl) (maybeReleaseStream_raises streamId)

theorem stopSending_raises (streamId errorCode : Nat) (w : WtSessionInfo) :
    (w.stopSending streamId errorCode).Raises streams := by
  unfold stopSending
  split_ifs <;> first | exact .nil w | exact .other _ rfl

theorem sendDatagram_raises (data : Bytes) (w : WtSessionInfo) :
    (w.sendDatagram data).Raises streams := by
  unfold sendDatagram
  split_ifs <;> first | exact .nil w | exact .other _ rfl

theorem drainSession_raises (w : WtSessionInfo) : w.drainSession.Raises streams := by
  unfold drainSession
  split_ifs <;> first | exact .nil w | exact .other _ rfl

/-! ## Received capsules -/

section Judge

variable (config : H2SessionConfig) (isServer : Bool) (w : WtSessionInfo)

theorem judgeStreamData_raises (info : WtStreamInfo) {streamId : Nat} (hid : streams streamId)
    (fin : Bool) (data : Bytes) :
    (w.judgeStreamData config info streamId fin data).Raises streams := by
  unfold judgeStreamData
  split_ifs
  · trivial
  · trivial
  · exact acceptStreamData_raises _ hid _ _ _ _
  · exact acceptStreamData_raises _ hid _ _ _ _

theorem judgeStream_raises (fin : Bool) {streamId : Nat} (hid : streams streamId) (data : Bytes) :
    (w.judgeStream config isServer fin streamId data).Raises streams := by
  unfold judgeStream
  cases w.streams.find? streamId with
  | some info =>
      dsimp only
      split_ifs
      · trivial
      · exact judgeStreamData_raises _ _ _ hid _ _
  | none =>
      dsimp only
      split_ifs
      · trivial
      · exact .nil w
      · trivial
      · trivial
      · exact judgeStreamData_raises _ _ _ hid _ _

theorem judgeReset_raises (streamId errorCode size : Nat) :
    (w.judgeReset config isServer streamId errorCode size).Raises streams := by
  unfold judgeReset
  cases w.streams.find? streamId <;> dsimp only <;> split_ifs <;>
    first | trivial | exact maybeReleaseStream_raises _ _

theorem judgeStopSending_raises (streamId errorCode : Nat) :
    (w.judgeStopSending isServer streamId errorCode).Raises streams := by
  unfold judgeStopSending
  cases w.streams.find? streamId with
  | some info =>
      dsimp only
      split_ifs
      · trivial
      · trivial
      · exact resetStream_raises _ _ _
  | none =>
      dsimp only
      split_ifs
      · trivial
      · trivial
      · exact .nil _
      · exact .nil _

theorem judgeMaxStreamData_raises (streamId maxData : Nat) :
    (w.judgeMaxStreamData isServer streamId maxData).Raises streams := by
  unfold judgeMaxStreamData
  cases w.streams.find? streamId <;> dsimp only <;> split_ifs <;>
    first | trivial | exact flushPendingSends_raises _ | exact .nil _

/-- Only data on a stream raises the stream's limit. -/
theorem judge_raises {r : Received}
    (hdata : ∀ fin streamId data, r = .stream fin streamId data → streams streamId) :
    (w.judge config isServer r).Raises streams := by
  cases r with
  | stream fin streamId data => exact judgeStream_raises _ _ _ _ (hdata fin streamId data rfl) _
  | resetStream streamId errorCode size => exact judgeReset_raises _ _ _ _ _ _
  | stopSending streamId errorCode => exact judgeStopSending_raises _ _ _ _
  | maxData maxData =>
      simp only [judge, judgeMaxData]
      split_ifs
      · trivial
      · exact flushPendingSends_raises _
      · exact .nil _
  | maxStreamData streamId maxData => exact judgeMaxStreamData_raises _ _ _ _
  | maxStreams isBidi maxStreams =>
      simp only [judge, judgeMaxStreams]
      split_ifs <;> first | trivial | exact .nil _
  | streamDataBlocked streamId =>
      simp only [judge, judgeStreamDataBlocked]
      split_ifs <;> first | trivial | exact .nil _
  | streamsBlocked maxStreams =>
      simp only [judge]
      split_ifs <;> first | trivial | exact .nil _
  | datagram data => exact .nil _
  | closeSession errorCode message => trivial
  | drainSession => exact .nil _
  | ignored => exact .nil _

end Judge

end Raises

end WtSessionInfo

end H2
end WebTransport
