import WebTransport.H2.Invariants

/-!
# H2.StreamTable — what the operations do to the table of streams

Most of what a session does leaves the set of its streams alone.  `TableRule` names the four ways a
property of the table has to survive: a change beside the table, the rewriting of an entry, the
implicit creation of a stream by the peer, and a release.  Every operation but `open_stream` is made
of these (`TableRule.after`, `TableRule.judge`).
-/

namespace WebTransport
namespace H2

open Bindings

namespace WtSessionInfo

/-- The table of streams, with what was released, how many streams the peer may open and which id is
allocated next. -/
def table (w : WtSessionInfo) : OrdMap Nat WtStreamInfo × Finset Nat × Nat × Nat × Nat × Nat :=
  (w.streams, w.releasedStreamIds, w.maxStreamsBidiRemote, w.maxStreamsUniRemote,
    w.nextBidiStreamId, w.nextUniStreamId)

end WtSessionInfo

/-- The initiator and the direction of a stream. -/
def WtStreamInfo.flags (info : WtStreamInfo) : Bool × Bool := (info.isLocal, info.isUnidirectional)

namespace WtSessionInfo

/-- `maybe_release_stream` behind its check. -/
def releaseStream (w : WtSessionInfo) (streamId : Nat) (info : WtStreamInfo) : WtSessionInfo :=
  if info.isLocal then w.dropStream streamId info
  else ((w.dropStream streamId info).replenishStreams info.isUnidirectional).1

/-- A property of the table of streams that the operations keep. -/
structure TableRule (config : H2SessionConfig) (isServer : Bool) (P : WtSessionInfo → Prop) :
    Prop where
  beside : ∀ (w : WtSessionInfo) {w' : WtSessionInfo}, w'.table = w.table → P w → P w'
  rewrite : ∀ {w : WtSessionInfo} {streamId : Nat} {info info' : WtStreamInfo},
    w.streams.find? streamId = some info → info'.flags = info.flags → P w →
      P (w.setStream streamId info')
  create : ∀ {w : WtSessionInfo} {streamId : Nat},
    isReceivableDataCapsule streamId isServer = true → w.streams.find? streamId = none →
      streamId ∉ w.releasedStreamIds → w.incomingStreamExceedsLimit streamId = false → P w →
        P (w.setStream streamId (w.newPeerStream config isServer streamId))
  release : ∀ {w : WtSessionInfo} {streamId : Nat} {info : WtStreamInfo},
    w.streams.find? streamId = some info → P w → P (w.releaseStream streamId info)

namespace TableRule

variable {config : H2SessionConfig} {isServer : Bool} {P : WtSessionInfo → Prop}
  (rule : TableRule config isServer P) {w : WtSessionInfo} {streamId : Nat}
  {info info' : WtStreamInfo}
include rule

/-! ## Releasing and receiving -/

theorem maybeReleaseStream (streamId : Nat) (h : P w) : P (w.maybeReleaseStream streamId).1 := by
  unfold WtSessionInfo.maybeReleaseStream
  cases hfind : w.streams.find? streamId with
  | none => exact h
  | some info =>
      have hreleased := rule.release hfind h
      unfold releaseStream at hreleased
      dsimp only
      split_ifs with hreleasable hlocal
      · rwa [if_pos hlocal] at hreleased
      · rwa [if_neg hlocal] at hreleased
      · exact h

/-- Rewrite an entry and release the stream where that finished it. -/
theorem rewriteAndRelease (hfind : w.streams.find? streamId = some info)
    (hflags : info'.flags = info.flags) (h : P w) :
    P ((w.setStream streamId info').maybeReleaseStream streamId).1 :=
  rule.maybeReleaseStream streamId (rule.rewrite hfind hflags h)

theorem maybeSendMaxData (h : P w) : P (w.maybeSendMaxData config).1 := by
  unfold WtSessionInfo.maybeSendMaxData
  dsimp only
  split_ifs
  · exact h
  · exact h
  · exact h
  · exact h
  · exact rule.beside w rfl h

theorem maybeSendMaxStreamData (streamId : Nat) (h : P w) :
    P (w.maybeSendMaxStreamData config streamId).1 := by
  unfold WtSessionInfo.maybeSendMaxStreamData
  cases hfind : w.streams.find? streamId with
  | none =>
      dsimp only
      split_ifs <;> exact h
  | some info =>
      dsimp only
      split_ifs
      · exact h
      · exact h
      · exact h
      · exact h
      · exact h
      · exact rule.rewrite hfind rfl h

theorem finishRecv (streamId : Nat) (h : P w) : P (w.finishRecv streamId).1 := by
  unfold WtSessionInfo.finishRecv
  cases hfind : w.streams.find? streamId with
  | none => exact h
  | some info => exact rule.rewriteAndRelease hfind rfl h

theorem acceptStreamData (hfind : w.streams.find? streamId = some info) (fin : Bool) (size : Nat)
    (h : P w) : P (w.acceptStreamData config streamId info fin size).1 := by
  have hbeside : P { w with bytesReceived := w.bytesReceived + size } := rule.beside w rfl h
  have hcounted : P (w.countReceived streamId info size) := rule.rewrite hfind rfl hbeside
  have hreplenished : P (((w.countReceived streamId info size).maybeSendMaxData config).andThen
      (WtSessionInfo.maybeSendMaxStreamData config streamId)).1 :=
    rule.maybeSendMaxStreamData streamId (rule.maybeSendMaxData hcounted)
  unfold WtSessionInfo.acceptStreamData
  dsimp only
  split_ifs
  · exact rule.finishRecv streamId hreplenished
  · exact hreplenished

/-! ## Sending -/

theorem flushStream (streamId : Nat) (h : P w) : P (w.flushStream streamId).1 := by
  unfold WtSessionInfo.flushStream
  cases hfind : w.streams.find? streamId with
  | none => exact h
  | some info =>
      dsimp only
      have hflushed : P (w.afterFlush streamId info (w.runFlushLoop streamId info)) := by
        have hbeside : P { w with bytesSent := (w.runFlushLoop streamId info).sessionSent } :=
          rule.beside w rfl h
        exact rule.rewrite hfind rfl hbeside
      split_ifs
      · exact rule.rewrite hfind rfl h
      · exact rule.maybeReleaseStream streamId hflushed
      · exact hflushed

theorem flushWalk (ids : List Nat) (h : P w) : P (WtSessionInfo.flushWalk ids w).1 := by
  induction ids generalizing w with
  | nil => exact h
  | cons streamId rest ih => exact ih (rule.flushStream streamId h)

theorem flushRounds (fuel : Nat) (h : P w) : P (WtSessionInfo.flushRounds fuel w).1 := by
  induction fuel generalizing w with
  | zero => exact h
  | succ fuel ih =>
      have hwalked := rule.flushWalk w.streams.keys h
      simp only [WtSessionInfo.flushRounds]
      split_ifs
      · exact hwalked
      · exact ih hwalked

theorem flushPendingSends (h : P w) : P w.flushPendingSends.1 := by
  unfold WtSessionInfo.flushPendingSends
  split_ifs
  · exact h
  · exact rule.flushRounds _ h

theorem resetStream (streamId errorCode : Nat) (h : P w) :
    P (w.resetStream streamId errorCode).1 := by
  unfold WtSessionInfo.resetStream
  split_ifs
  · exact h
  · cases hfind : w.streams.find? streamId with
    | none => exact h
    | some info =>
        dsimp only
        split_ifs
        · exact h
        · exact rule.rewriteAndRelease hfind rfl h

theorem stopSending (streamId errorCode : Nat) (h : P w) :
    P (w.stopSending streamId errorCode).1 := by
  unfold WtSessionInfo.stopSending
  split_ifs
  · exact h
  · exact h
  · exact h
  · exact rule.beside w rfl h

theorem sendStreamData (streamId : Nat) (data : Bytes) (fin : Bool) (h : P w) :
    P (w.sendStreamData streamId data fin).1 := by
  unfold WtSessionInfo.sendStreamData
  split_ifs
  · exact h
  · cases hfind : w.streams.find? streamId with
    | none => exact h
    | some info =>
        have hwhole : P (w.sendWhole info streamId data fin).1 := by
          have hbeside : P { w with bytesSent := w.bytesSent + data.length } := rule.beside w rfl h
          unfold sendWhole
          dsimp only
          split_ifs
          · exact rule.rewriteAndRelease hfind rfl hbeside
          · exact rule.rewrite hfind rfl hbeside
        have hblocked : ∀ sessionAvail streamAvail,
            P (w.sendBlocked info streamId data fin sessionAvail streamAvail).1 := by
          intro sessionAvail streamAvail
          unfold sendBlocked
          dsimp only
          let w₁ : WtSessionInfo :=
            { w with
              bytesSent := w.bytesSent + sendableBytes sessionAvail streamAvail
              dataBlockedSent := w.dataBlockedSent ||
                decide (sendableBytes sessionAvail streamAvail < data.length ∧
                  sessionAvail ≤ streamAvail) }
          have hbeside : P w₁ := rule.beside w rfl h
          have hfind₁ : w₁.streams.find? streamId = some info := hfind
          exact rule.rewrite hfind₁ rfl hbeside
        dsimp only
        cases info.pendingSends.getLast? with
        | some last =>
            dsimp only
            split_ifs
            · exact h
            · exact h
            · exact h
            · exact rule.rewrite hfind rfl h
        | none =>
            dsimp only
            split_ifs
            · exact h
            · exact h
            · exact hblocked _ _
            · exact hwhole

/-- Every call of the application but `open_stream` keeps the property. -/
theorem after (op : Op) (hop : ∀ isUni, op ≠ .openStream isUni) (h : P w) :
    P (w.after config isServer op) := by
  cases op with
  | openStream isUni => exact absurd rfl (hop isUni)
  | sendStreamData streamId data fin => exact rule.sendStreamData streamId data fin h
  | resetStream streamId errorCode => exact rule.resetStream streamId _ h
  | stopSending streamId errorCode => exact rule.stopSending streamId _ h
  | sendDatagram data => exact h
  | drainSession => exact h
  | closeSession errorCode message => exact h
  | receive c => exact h

/-! ## Verdicts -/

theorem judgeStreamData (hfind : w.streams.find? streamId = some info) (fin : Bool) (data : Bytes)
    (h : P w) : (w.judgeStreamData config info streamId fin data).Leaves P := by
  unfold WtSessionInfo.judgeStreamData
  by_cases hstate : data.length > 0 ∧ info.recvState.recvDone = true
  · rw [if_pos hstate]
    exact h
  rw [if_neg hstate]
  by_cases hcredit : w.bytesReceived + data.length > w.maxDataRemote ∨
      info.bytesReceived + data.length > info.maxStreamDataRemote
  · rw [if_pos hcredit]
    exact h
  rw [if_neg hcredit]
  exact rule.acceptStreamData hfind fin data.length h

theorem judgeStream (fin : Bool) (streamId : Nat) (data : Bytes) (h : P w) :
    (w.judgeStream config isServer fin streamId data).Leaves P := by
  unfold WtSessionInfo.judgeStream
  cases hreceivable : isReceivableDataCapsule streamId isServer with
  | false => exact h
  | true =>
      rw [if_neg (by decide)]
      cases hfind : w.streams.find? streamId with
      | some info => exact rule.judgeStreamData hfind fin data h
      | none =>
          dsimp only
          by_cases hreleased : streamId ∈ w.releasedStreamIds
          · rw [if_pos hreleased]
            by_cases hempty : data.length = 0
            · rw [if_pos hempty]
              exact h
            · rw [if_neg hempty]
              exact h
          rw [if_neg hreleased]
          cases hlimit : w.incomingStreamExceedsLimit streamId with
          | true => exact h
          | false =>
              have hcreated := rule.create hreceivable hfind hreleased hlimit h
              exact rule.judgeStreamData (find?_setStream_self w streamId _) fin data hcreated

theorem judgeReset (streamId errorCode reliableSize : Nat) (h : P w) :
    (w.judgeReset config isServer streamId errorCode reliableSize).Leaves P := by
  unfold WtSessionInfo.judgeReset
  dsimp only
  cases hreceivable : isReceivableDataCapsule streamId isServer with
  | false => exact h
  | true =>
      rw [if_neg (by decide)]
      cases hfind : w.streams.find? streamId with
      | some info =>
          dsimp only
          split_ifs
          · exact h
          · exact h
          · exact rule.rewriteAndRelease hfind rfl h
      | none =>
          dsimp only
          split_ifs with hreleased hsize hlimit
          · exact h
          · exact h
          · exact h
          · have hcreated := rule.create hreceivable hfind hreleased (Bool.eq_false_iff.2 hlimit) h
            generalize w.newPeerStream config isServer streamId = info at hcreated ⊢
            have hreset : P (((w.setStream streamId info).setStream streamId
                { info with recvState := .resetRecvd }).maybeReleaseStream streamId).1 :=
              rule.rewriteAndRelease (find?_setStream_self w streamId info) rfl hcreated
            rw [setStream_setStream] at hreset
            exact hreset

theorem judgeStopSending (streamId errorCode : Nat) (h : P w) :
    (w.judgeStopSending isServer streamId errorCode).Leaves P := by
  have hrecorded : P (w.recordStopSending streamId) := rule.beside w rfl h
  unfold WtSessionInfo.judgeStopSending
  cases hfind : w.streams.find? streamId with
  | none =>
      dsimp only
      split_ifs
      · exact h
      · exact h
      · exact hrecorded
      · exact h
  | some info =>
      have hfind' : (w.recordStopSending streamId).streams.find? streamId = some info := hfind
      have hmarked : P ((w.recordStopSending streamId).setStream streamId
          { info with stopSendingReceived := true }) := rule.rewrite hfind' rfl hrecorded
      dsimp only
      split_ifs
      · exact h
      · exact h
      · exact rule.resetStream streamId errorCode hmarked

theorem judgeMaxStreamData (streamId maxData : Nat) (h : P w) :
    (w.judgeMaxStreamData isServer streamId maxData).Leaves P := by
  have hrecorded : P (w.recordMaxStreamData streamId maxData) := rule.beside w rfl h
  unfold WtSessionInfo.judgeMaxStreamData
  cases hfind : w.streams.find? streamId with
  | none =>
      dsimp only
      split_ifs
      · exact h
      · exact h
      · exact h
      · exact hrecorded
  | some info =>
      have hfind' : (w.recordMaxStreamData streamId maxData).streams.find? streamId = some info :=
        hfind
      have hraised : P ((w.recordMaxStreamData streamId maxData).raiseMaxStreamData streamId info
          maxData) := rule.rewrite hfind' rfl hrecorded
      dsimp only
      split_ifs
      · exact h
      · exact h
      · exact h
      · exact rule.flushPendingSends hraised
      · exact hrecorded

/-- The verdict on a received capsule keeps the property. -/
theorem judge (r : Received) (h : P w) : (w.judge config isServer r).Leaves P := by
  cases r with
  | stream fin streamId data => exact rule.judgeStream fin streamId data h
  | resetStream streamId errorCode reliableSize =>
      exact rule.judgeReset streamId errorCode reliableSize h
  | stopSending streamId errorCode => exact rule.judgeStopSending streamId errorCode h
  | maxData maxData =>
      simp only [WtSessionInfo.judge, judgeMaxData]
      split_ifs
      · exact h
      · exact rule.flushPendingSends (rule.beside w rfl h)
      · exact rule.beside w rfl h
  | maxStreamData streamId maxData => exact rule.judgeMaxStreamData streamId maxData h
  | maxStreams isBidi maxStreams =>
      simp only [WtSessionInfo.judge, judgeMaxStreams]
      split_ifs <;> first | exact h | exact rule.beside w rfl h
  | streamDataBlocked streamId =>
      simp only [WtSessionInfo.judge, judgeStreamDataBlocked]
      split_ifs <;> exact h
  | streamsBlocked maxStreams =>
      simp only [WtSessionInfo.judge]
      split_ifs <;> exact h
  | datagram data => exact h
  | closeSession errorCode message => trivial
  | drainSession => exact h
  | ignored => exact h

end TableRule

end WtSessionInfo

end H2
end WebTransport
