import WebTransport.H2.Calls

/-!
# H2.EndMark — handlers do not look at the END_STREAM mark

An END_STREAM that comes before a session is accepted only leaves a mark, `pre_accept_end_stream`.
The capsules that were buffered are handled with the mark on the entry.  No handler reads it
(`EndBlind`), and the methods that end a session take it off, so that the loop of `process_capsules`
commutes with putting the mark on the entry of a live session.

* `judge_withEndStream` : verdicts and the mark;
* `loop_endMarked`      : the loop and the mark;
* `loop_past`           : the loop and what was done before it.
-/

namespace WebTransport
namespace H2

open Bindings

namespace WtSessionInfo

/-- The session entry with another `pre_accept_end_stream`. -/
@[simps]
def withEndStream (w : WtSessionInfo) (endStream : Bool) : WtSessionInfo :=
  { w with preAcceptEndStream := endStream }

/-- An operation that neither reads nor writes `pre_accept_end_stream`. -/
def EndBlind (f : WtSessionInfo → Queued) : Prop :=
  ∀ w endStream, f (w.withEndStream endStream) = ((f w).1.withEndStream endStream, (f w).2)

namespace EndBlind

theorem andThen {f g : WtSessionInfo → Queued} (hf : EndBlind f) (hg : EndBlind g) :
    EndBlind fun w => (f w).andThen g := by
  intro w endStream
  simp only [Queued.andThen, hf w endStream, hg (f w).1 endStream]

theorem maybeSendMaxData (config : H2SessionConfig) :
    EndBlind (WtSessionInfo.maybeSendMaxData config) := by
  intro w endStream
  unfold WtSessionInfo.maybeSendMaxData
  simp only [withEndStream_isTerminated, withEndStream_bytesReceived, withEndStream_maxDataRemote]
  split_ifs <;> rfl

theorem maybeSendMaxStreamData (config : H2SessionConfig) (streamId : Nat) :
    EndBlind (WtSessionInfo.maybeSendMaxStreamData config streamId) := by
  intro w endStream
  unfold WtSessionInfo.maybeSendMaxStreamData
  simp only [withEndStream_isTerminated, withEndStream_sentStopSendingStreamIds,
    withEndStream_streams]
  cases w.streams.find? streamId with
  | none => split_ifs <;> rfl
  | some info =>
      dsimp only
      split_ifs <;> rfl

theorem replenishStreams (isUni : Bool) : EndBlind (WtSessionInfo.replenishStreams isUni) := by
  intro w endStream
  unfold WtSessionInfo.replenishStreams
  simp only [withEndStream_maxStreamsUniRemote, withEndStream_maxStreamsBidiRemote]
  split_ifs <;> rfl

theorem maybeReleaseStream (streamId : Nat) :
    EndBlind (WtSessionInfo.maybeReleaseStream streamId) := by
  intro w endStream
  unfold WtSessionInfo.maybeReleaseStream
  simp only [withEndStream_streams]
  cases w.streams.find? streamId with
  | none => rfl
  | some info =>
      dsimp only
      split_ifs
      · rfl
      · exact replenishStreams info.isUnidirectional (w.dropStream streamId info) endStream
      · rfl

theorem finishRecv (streamId : Nat) : EndBlind (WtSessionInfo.finishRecv streamId) := by
  intro w endStream
  unfold WtSessionInfo.finishRecv
  simp only [withEndStream_streams]
  cases w.streams.find? streamId with
  | none => rfl
  | some info =>
      exact maybeReleaseStream streamId (w.setStream streamId { info with recvState := .dataRecvd })
        endStream

theorem acceptStreamData (config : H2SessionConfig) (streamId : Nat) (info : WtStreamInfo)
    (fin : Bool) (size : Nat) :
    EndBlind (WtSessionInfo.acceptStreamData config streamId info fin size) := by
  intro w endStream
  have hgrants := (maybeSendMaxData config).andThen (maybeSendMaxStreamData config streamId)
  cases fin with
  | false => exact hgrants (w.countReceived streamId info size) endStream
  | true =>
      exact hgrants.andThen (finishRecv streamId) (w.countReceived streamId info size) endStream

theorem flushStream (streamId : Nat) : EndBlind (WtSessionInfo.flushStream streamId) := by
  intro w endStream
  unfold WtSessionInfo.flushStream
  simp only [withEndStream_streams]
  cases w.streams.find? streamId with
  | none => rfl
  | some info =>
      have hloop : (w.withEndStream endStream).runFlushLoop streamId info =
          w.runFlushLoop streamId info := rfl
      have hafter : (w.withEndStream endStream).afterFlush streamId info
          (w.runFlushLoop streamId info) =
            (w.afterFlush streamId info (w.runFlushLoop streamId info)).withEndStream
              endStream := rfl
      have hrelease := maybeReleaseStream streamId
        (w.afterFlush streamId info (w.runFlushLoop streamId info)) endStream
      dsimp only
      rw [hloop]
      split_ifs
      · rfl
      · simp only [Queued.andThen, hafter, hrelease]
      · rfl

theorem flushWalk (ids : List Nat) : EndBlind (WtSessionInfo.flushWalk ids) := by
  induction ids with
  | nil => exact fun _ _ => rfl
  | cons streamId rest ih => exact (flushStream streamId).andThen ih

theorem flushRounds (fuel : Nat) : EndBlind (WtSessionInfo.flushRounds fuel) := by
  induction fuel with
  | zero => exact fun _ _ => rfl
  | succ fuel ih =>
      intro w endStream
      have hwalk := flushWalk w.streams.keys w endStream
      have hnext := ih (WtSessionInfo.flushWalk w.streams.keys w).1 endStream
      simp only [WtSessionInfo.flushRounds, withEndStream_streams, hwalk, Queued.andThen, hnext]
      split_ifs <;> rfl

theorem flushPendingSends : EndBlind WtSessionInfo.flushPendingSends := by
  intro w endStream
  unfold WtSessionInfo.flushPendingSends
  simp only [withEndStream_isTerminated]
  split_ifs
  · rfl
  · exact flushRounds (w.pendingBytes + 1) w endStream

theorem resetStream (streamId errorCode : Nat) :
    EndBlind (WtSessionInfo.resetStream streamId errorCode) := by
  intro w endStream
  unfold WtSessionInfo.resetStream
  simp only [withEndStream_isTerminated, withEndStream_streams]
  cases w.streams.find? streamId with
  | none => split_ifs <;> rfl
  | some info =>
      have hset : (w.withEndStream endStream).setStream streamId
          { info with sendState := .resetSent, pendingSends := [] } =
            (w.setStream streamId { info with sendState := .resetSent, pendingSends := [] }
              ).withEndStream endStream := rfl
      have hrelease := maybeReleaseStream streamId
        (w.setStream streamId { info with sendState := .resetSent, pendingSends := [] }) endStream
      dsimp only [Queued.andThen]
      rw [hset, hrelease]
      split_ifs <;> rfl

end EndBlind

end WtSessionInfo

/-! ## Verdicts -/

/-- The verdict with the mark on the entry that it leaves. -/
def Verdict.withEndStream (endStream : Bool) : Verdict → Verdict
  | .refuse w event errorCode message => .refuse (w.withEndStream endStream) event errorCode message
  | .accept before q after => .accept before (q.1.withEndStream endStream, q.2) after
  | .close event => .close event

namespace WtSessionInfo

section Verdicts

variable {config : H2SessionConfig} {isServer : Bool} (w : WtSessionInfo) (endStream : Bool)

theorem accept_withEndStream {f : WtSessionInfo → Queued} (hf : EndBlind f)
    (before after : List H2Event) :
    Verdict.accept before (f (w.withEndStream endStream)) after =
      (Verdict.accept before (f w) after).withEndStream endStream := by
  rw [hf w endStream]
  rfl

theorem judgeStreamData_withEndStream (info : WtStreamInfo) (streamId : Nat) (fin : Bool)
    (data : Bytes) :
    (w.withEndStream endStream).judgeStreamData config info streamId fin data =
      (w.judgeStreamData config info streamId fin data).withEndStream endStream := by
  have haccept := accept_withEndStream w endStream
    (EndBlind.acceptStreamData config streamId info fin data.length)
  unfold judgeStreamData
  simp only [withEndStream_bytesReceived, withEndStream_maxDataRemote]
  split_ifs
  · rfl
  · rfl
  · exact haccept _ _
  · exact haccept _ _

theorem judgeStream_withEndStream (fin : Bool) (streamId : Nat) (data : Bytes) :
    (w.withEndStream endStream).judgeStream config isServer fin streamId data =
      (w.judgeStream config isServer fin streamId data).withEndStream endStream := by
  have hlimit : (w.withEndStream endStream).incomingStreamExceedsLimit streamId =
      w.incomingStreamExceedsLimit streamId := rfl
  unfold judgeStream
  simp only [withEndStream_streams, withEndStream_releasedStreamIds, hlimit]
  cases w.streams.find? streamId with
  | some info =>
      dsimp only
      split_ifs
      · rfl
      · exact judgeStreamData_withEndStream w endStream info streamId fin data
  | none =>
      dsimp only
      split_ifs
      · rfl
      · rfl
      · rfl
      · rfl
      · exact judgeStreamData_withEndStream
          (w.setStream streamId (w.newPeerStream config isServer streamId)) endStream _ streamId fin
          data

theorem judgeReset_withEndStream (streamId errorCode reliableSize : Nat) :
    (w.withEndStream endStream).judgeReset config isServer streamId errorCode reliableSize =
      (w.judgeReset config isServer streamId errorCode reliableSize).withEndStream endStream := by
  have hlimit : (w.withEndStream endStream).incomingStreamExceedsLimit streamId =
      w.incomingStreamExceedsLimit streamId := rfl
  have haccept := fun info => accept_withEndStream (w.setStream streamId info) endStream
    (EndBlind.maybeReleaseStream streamId)
  unfold judgeReset
  simp only [withEndStream_streams, withEndStream_releasedStreamIds, hlimit]
  cases w.streams.find? streamId with
  | some info =>
      dsimp only
      split_ifs
      · rfl
      · rfl
      · rfl
      · exact haccept _ _ _
  | none =>
      dsimp only
      split_ifs
      · rfl
      · rfl
      · rfl
      · rfl
      · exact haccept _ _ _

theorem judgeStopSending_withEndStream (streamId errorCode : Nat) :
    (w.withEndStream endStream).judgeStopSending isServer streamId errorCode =
      (w.judgeStopSending isServer streamId errorCode).withEndStream endStream := by
  have hreceived : (w.withEndStream endStream).hasReceivedStopSending streamId =
      w.hasReceivedStopSending streamId := rfl
  have hrecord : ((w.withEndStream endStream).recordStopSending streamId) =
      (w.recordStopSending streamId).withEndStream endStream := rfl
  have haccept := fun info => accept_withEndStream
    ((w.recordStopSending streamId).setStream streamId info) endStream
    (EndBlind.resetStream streamId errorCode)
  unfold judgeStopSending
  simp only [withEndStream_streams, hreceived, hrecord, withEndStream_receivedStopSendingStreamIds]
  cases w.streams.find? streamId with
  | some info =>
      dsimp only
      split_ifs
      · rfl
      · rfl
      · exact haccept _ _ _
  | none =>
      dsimp only
      split_ifs <;> rfl

theorem judgeMaxData_withEndStream (maxData : Nat) :
    (w.withEndStream endStream).judgeMaxData maxData =
      (w.judgeMaxData maxData).withEndStream endStream := by
  have haccept := accept_withEndStream
    ({ w with receivedMaxData := some maxData }.raiseMaxData maxData) endStream
    EndBlind.flushPendingSends
  unfold judgeMaxData
  simp only [withEndStream_receivedMaxData, withEndStream_maxDataLocal]
  split_ifs
  · rfl
  · exact haccept _ _
  · rfl

theorem judgeMaxStreamData_withEndStream (streamId maxData : Nat) :
    (w.withEndStream endStream).judgeMaxStreamData isServer streamId maxData =
      (w.judgeMaxStreamData isServer streamId maxData).withEndStream endStream := by
  have hreceived : (w.withEndStream endStream).hasReceivedStopSending streamId =
      w.hasReceivedStopSending streamId := rfl
  have hprevious : SessionScope.previousMaxStreamData isServer
      (w.withEndStream endStream) streamId =
      SessionScope.previousMaxStreamData isServer w streamId := rfl
  have haccept := fun info => accept_withEndStream
    ((w.recordMaxStreamData streamId maxData).raiseMaxStreamData streamId info maxData) endStream
    EndBlind.flushPendingSends
  unfold judgeMaxStreamData
  simp only [withEndStream_streams, hreceived, hprevious]
  cases w.streams.find? streamId with
  | some info =>
      dsimp only
      split_ifs
      · rfl
      · rfl
      · rfl
      · exact haccept _ _ _
      · rfl
  | none =>
      dsimp only
      split_ifs <;> rfl

theorem judgeMaxStreams_withEndStream (isBidi : Bool) (maxStreams : Nat) :
    (w.withEndStream endStream).judgeMaxStreams isBidi maxStreams =
      (w.judgeMaxStreams isBidi maxStreams).withEndStream endStream := by
  unfold judgeMaxStreams
  simp only [withEndStream_receivedMaxStreamsBidi, withEndStream_receivedMaxStreamsUni,
    withEndStream_maxStreamsBidiLocal, withEndStream_maxStreamsUniLocal]
  split_ifs <;> rfl

theorem judgeStreamDataBlocked_withEndStream (streamId : Nat) :
    (w.withEndStream endStream).judgeStreamDataBlocked isServer streamId =
      (w.judgeStreamDataBlocked isServer streamId).withEndStream endStream := by
  unfold judgeStreamDataBlocked
  simp only [withEndStream_streams, withEndStream_releasedStreamIds]
  split_ifs <;> rfl

/-- A verdict does not depend on the mark, and leaves it alone. -/
theorem judge_withEndStream (r : Received) :
    (w.withEndStream endStream).judge config isServer r =
      (w.judge config isServer r).withEndStream endStream := by
  cases r with
  | stream fin streamId data => exact judgeStream_withEndStream w endStream fin streamId data
  | resetStream streamId errorCode reliableSize =>
      exact judgeReset_withEndStream w endStream streamId errorCode reliableSize
  | stopSending streamId errorCode =>
      exact judgeStopSending_withEndStream w endStream streamId errorCode
  | maxData maxData => exact judgeMaxData_withEndStream w endStream maxData
  | maxStreamData streamId maxData =>
      exact judgeMaxStreamData_withEndStream w endStream streamId maxData
  | maxStreams isBidi maxStreams =>
      exact judgeMaxStreams_withEndStream w endStream isBidi maxStreams
  | streamDataBlocked streamId => exact judgeStreamDataBlocked_withEndStream w endStream streamId
  | streamsBlocked maxStreams =>
      simp only [judge]
      split_ifs <;> rfl
  | datagram data => rfl
  | closeSession errorCode message => rfl
  | drainSession => rfl
  | ignored => rfl

end Verdicts

/-- What an accepted capsule leaves of a live session is live. -/
theorem judge_live {config : H2SessionConfig} {isServer : Bool} {w : WtSessionInfo} {r : Received}
    {before after : List H2Event} {q : Queued} (hwf : Wf isServer w)
    (hlive : w.isTerminated = false) (h : w.judge config isServer r = .accept before q after) :
    q.1.isTerminated = false := by
  rcases judge_answers hwf (Permits.all_admits isServer w r) h with ⟨ls, hpath, -, -, -⟩
  have hstage : q.1.stage = w.stage :=
    hpath.invariant (fun w₁ => w₁.stage = w.stage) (fun heq htrans => htrans.stage_eq.trans heq) rfl
  exact (congrArg (fun stage => stage.2.1) hstage).trans hlive

end WtSessionInfo

/-! ## The loop -/

namespace SessionScope

open WtSessionInfo (Wf)

variable {sc : SessionScope} {w : WtSessionInfo}

/-- The mark on the entry of a session that is live. -/
def endMarked (sc : SessionScope) : SessionScope :=
  { sc with entry := sc.entry.map fun w => if w.isTerminated then w else w.withEndStream true }

theorem endMarked_gone (hentry : sc.entry = none) : sc.endMarked = sc := by
  cases sc
  simp only at hentry
  subst hentry
  rfl

theorem endMarked_ended (hentry : sc.entry = some w) (hterm : w.isTerminated = true) :
    sc.endMarked = sc := by
  cases sc
  simp only at hentry
  subst hentry
  simp only [endMarked, Option.map_some, hterm, if_true]

theorem endMarked_live (hentry : sc.entry = some w) (hlive : w.isTerminated = false) :
    sc.endMarked = sc.setEntry (w.withEndStream true) := by
  simp only [endMarked, hentry, Option.map_some, hlive, setEntry, Bool.false_eq_true, if_false]

/-- A method that closes the session takes the mark off. -/
theorem closeSession_withEndStream (hlive : w.isTerminated = false) (errorCode : Nat)
    (message : Bytes) :
    (sc.setEntry (w.withEndStream true)).closeSession errorCode message =
        (sc.setEntry w).closeSession errorCode message ∧
      ∃ w', ((sc.setEntry w).closeSession errorCode message).entry = some w' ∧
        w'.isTerminated = true := by
  have hlive' : (w.withEndStream true).isTerminated = false := hlive
  simp only [closeSession, setEntry, hlive, hlive', Bool.false_eq_true, if_false]
  exact ⟨rfl, w.ended, rfl, rfl⟩

/-- A verdict on a live session carried out behind the mark. -/
theorem carryOut_withEndStream {isServer : Bool} (hwf : Wf isServer w)
    (hlive : w.isTerminated = false) (r : Received) :
    (sc.setEntry (w.withEndStream true)).carryOut
        ((w.judge sc.config isServer r).withEndStream true) =
      ((sc.setEntry w).carryOut (w.judge sc.config isServer r)).endMarked := by
  have hends : (w.judge sc.config isServer r).Ends fun w' => w'.isTerminated = false :=
    WtSessionInfo.judge_ends hlive r fun _ _ _ _ _ => hlive
  cases hjudge : w.judge sc.config isServer r with
  | refuse w' event errorCode message =>
      rw [hjudge] at hends
      let sc' : SessionScope :=
        { sc with effects := sc.effects ++ event.toList.map (sc.setEntry w).eventEffect }
      rcases @closeSession_withEndStream sc' w' hends.1 errorCode (ascii message) with
        ⟨heq, w'', hentry, hterm⟩
      calc
        (sc.setEntry (w.withEndStream true)).carryOut
            (Verdict.withEndStream true (.refuse w' event errorCode message))
            = (sc'.setEntry (w'.withEndStream true)).closeSession errorCode (ascii message) := rfl
        _ = (sc'.setEntry w').closeSession errorCode (ascii message) := heq
        _ = ((sc'.setEntry w').closeSession errorCode (ascii message)).endMarked :=
              (endMarked_ended hentry hterm).symm
  | accept before q after =>
      have hq := WtSessionInfo.judge_live hwf hlive hjudge
      let sc' := (sc.setEntry w).carryOut (.accept before q after)
      have hentry : sc'.entry = some q.1 := rfl
      exact (endMarked_live hentry hq).symm
  | close event => exact (endMarked_gone rfl).symm

/-- What is made of a payload does not depend on the mark. -/
theorem react_endMarked {isServer : Bool} (hsound : Sound isServer sc) (hentry : sc.entry = some w)
    (hlive : w.isTerminated = false) (r : Reading) :
    sc.endMarked.react (w.withEndStream true) r = (sc.react w r).endMarked := by
  have hself := setEntry_self hentry
  rw [endMarked_live hentry hlive]
  cases r with
  | malformed =>
      have hended : sc.resetStreamForMalformedCapsule.entry = some w.ended := by
        simp only [resetStreamForMalformedCapsule, hentry, Option.map_some]
        rfl
      have hmarked := endMarked_ended hended rfl
      have hsame : (sc.setEntry (w.withEndStream true)).resetStreamForMalformedCapsule =
          (sc.setEntry w).resetStreamForMalformedCapsule := rfl
      rw [hself] at hsame
      exact hsame.trans hmarked.symm
  | wtError message =>
      let sc' : SessionScope :=
        sc.pushEvent { type := .error, errorCode := kWtError, errorMessage := ascii message }
      rcases @closeSession_withEndStream sc' w hlive kWtError (ascii message) with
        ⟨heq, w', hentry', hterm⟩
      have hsame : sc'.setEntry w = sc' := setEntry_self hentry
      rw [hsame] at heq hentry'
      exact heq.trans (endMarked_ended hentry' hterm).symm
  | received r =>
      have hcarried := @carryOut_withEndStream sc w isServer (hsound.2 w hentry) hlive r
      rw [hself] at hcarried
      have hmarked := @receive_eq (sc.setEntry (w.withEndStream true)) (w.withEndStream true) rfl r
      have hplain := receive_eq hentry r
      rw [hsound.1] at hplain
      have hrole : (sc.setEntry (w.withEndStream true)).isServer = isServer := hsound.1
      have hconfig : (sc.setEntry (w.withEndStream true)).config = sc.config := rfl
      rw [hrole, hconfig, WtSessionInfo.judge_withEndStream, hcarried, ← hplain] at hmarked
      exact hmarked

/-- A dispatched capsule does not look at the mark. -/
theorem processCapsule_endMarked {isServer : Bool} (hsound : Sound isServer sc)
    (hentry : sc.entry = some w) (hlive : w.isTerminated = false) (type : Nat) (payload : Bytes)
    (wireLen : Nat) :
    sc.endMarked.processCapsule type payload wireLen =
      (sc.processCapsule type payload wireLen).endMarked := by
  let sc' := (sc.perform (.dispatch type payload)).perform (.consumeRecvBytes wireLen)
  have hentry' : sc'.entry = some w := hentry
  have hsound' : Sound isServer sc' := hsound
  have hmarked : sc'.endMarked.entry = some (w.withEndStream true) := by
    rw [endMarked_live hentry' hlive]
    rfl
  calc
    sc.endMarked.processCapsule type payload wireLen
        = sc'.endMarked.handleCapsule type payload := rfl
    _ = sc'.endMarked.react (w.withEndStream true) (readPayload type payload) :=
          handleCapsule_eq hmarked type payload
    _ = (sc'.react w (readPayload type payload)).endMarked :=
          react_endMarked hsound' hentry' hlive _
    _ = (sc.processCapsule type payload wireLen).endMarked := by
          rw [← handleCapsule_eq hentry' type payload]
          rfl

theorem closeOversized_endMarked (hentry : sc.entry = some w) (hlive : w.isTerminated = false) :
    sc.endMarked.closeOversized = sc.closeOversized.endMarked := by
  rcases closeOversized_entry hentry hlive with ⟨w', hentry', hterm, -⟩
  rw [endMarked_ended hentry' hterm, endMarked_live hentry hlive]
  simp only [closeOversized, reportWtError, pushEvent, perform, closeSession, setEntry, hentry,
    hlive,
    WtSessionInfo.withEndStream_isTerminated]
  rfl

/-- The loop commutes with putting the mark on a live entry. -/
theorem loop_endMarked {isServer : Bool} (hsound : Sound isServer sc) :
    sc.endMarked.loop = sc.loop.endMarked := by
  refine loop_induction (P := fun sc sc' => Sound isServer sc → sc.endMarked.loop = sc'.endMarked)
    ?_ ?_ ?_ ?_ ?_ sc hsound
  · intro sc hentry _
    have hturn : sc.loopTurn = .stop sc := by simp only [loopTurn, hentry]
    rw [endMarked_gone hentry, loop_of_stop hturn]
  · intro sc w hentry hterm _
    have hcleared : (sc.setEntry (w.withBuffer [])).entry = some (w.withBuffer []) := rfl
    rw [endMarked_ended hentry hterm, endMarked_ended hcleared hterm]
    exact loop_of_stop (loopTurn_terminated hentry hterm)
  · intro sc w hentry hlive hhead _
    have hmarked : sc.endMarked.entry = some (w.withEndStream true) := by
      rw [endMarked_live hentry hlive]
      rfl
    have hturn := loopTurn_live hmarked hlive
    have hhead' : readHead sc.endMarked.config (w.withEndStream true).capsuleBuffer = .unfinished :=
      hhead
    rw [hhead'] at hturn
    exact loop_of_stop hturn
  · intro sc w hentry hlive hhead _
    have hmarked : sc.endMarked.entry = some (w.withEndStream true) := by
      rw [endMarked_live hentry hlive]
      rfl
    have hturn := loopTurn_live hmarked hlive
    have hhead' : readHead sc.endMarked.config (w.withEndStream true).capsuleBuffer = .oversized :=
      hhead
    rw [hhead'] at hturn
    rw [← closeOversized_endMarked hentry hlive]
    exact loop_of_stop hturn
  · intro sc w type payload rest sc' hentry hlive hhead hsc' ih hsound
    have hmarked : sc.endMarked.entry = some (w.withEndStream true) := by
      rw [endMarked_live hentry hlive]
      rfl
    have hturn := loopTurn_live hmarked hlive
    have hhead' : readHead sc.endMarked.config (w.withEndStream true).capsuleBuffer =
        .capsule type payload rest := hhead
    rw [hhead'] at hturn
    -- The rest of the buffer is put back under the mark.
    have hrest : (sc.setEntry (w.withBuffer rest)).entry = some (w.withBuffer rest) := rfl
    have hsame : sc.endMarked.setEntry ((w.withEndStream true).withBuffer rest) =
        (sc.setEntry (w.withBuffer rest)).endMarked := by
      rw [endMarked_live hrest hlive, endMarked_live hentry hlive]
      rfl
    have hready : Sound isServer (sc.setEntry (w.withBuffer rest)) :=
      hsound.setEntry hentry rfl rfl rfl
    rw [loop_of_again hturn, hsame, processCapsule_endMarked hready hrest hlive]
    rw [hsc'] at ih ⊢
    let sc'' := ((sc.setEntry (w.withBuffer rest)).perform (.dispatch type payload)).perform
      (.consumeRecvBytes (w.capsuleBuffer.length - rest.length))
    have hentry' : sc''.entry = some (w.withBuffer rest) := rfl
    have hready' : Sound isServer sc'' := hready
    have hstep : (sc.setEntry (w.withBuffer rest)).processCapsule type payload
        (w.capsuleBuffer.length - rest.length) =
          sc''.react (w.withBuffer rest) (readPayload type payload) :=
      handleCapsule_eq hentry' type payload
    rw [hstep] at ih
    have hmore := ih (Sound.react hready' hentry' hlive _)
    rw [← hstep] at hmore
    exact hmore

/-- What was done before stays in front of what the loop does. -/
def past (es : List Effect) (sc : SessionScope) : SessionScope :=
  { sc with effects := es ++ sc.effects }

theorem past_frame (es : List Effect) (hentry : sc.entry = some w) :
    sc.past es = sc.frame es w.capsuleBuffer := by
  cases sc
  simp only at hentry
  subst hentry
  rfl

theorem loop_past (es : List Effect) (sc : SessionScope) : (sc.past es).loop = sc.loop.past es := by
  refine loop_induction (P := fun sc sc' => (sc.past es).loop = sc'.past es) ?_ ?_ ?_ ?_ ?_ sc
  · intro sc hentry
    have hturn : (sc.past es).loopTurn = .stop (sc.past es) := by
      simp only [past, loopTurn, hentry]
    exact loop_of_stop hturn
  · intro sc w hentry hterm
    have hentry' : (sc.past es).entry = some w := hentry
    exact loop_of_stop (loopTurn_terminated hentry' hterm)
  · intro sc w hentry hlive hhead
    have hentry' : (sc.past es).entry = some w := hentry
    have hturn := loopTurn_live hentry' hlive
    have hhead' : readHead (sc.past es).config w.capsuleBuffer = .unfinished := hhead
    rw [hhead'] at hturn
    exact loop_of_stop hturn
  · intro sc w hentry hlive hhead
    have hentry' : (sc.past es).entry = some w := hentry
    have hturn := loopTurn_live hentry' hlive
    have hhead' : readHead (sc.past es).config w.capsuleBuffer = .oversized := hhead
    rw [hhead'] at hturn
    have hclosed : (sc.past es).closeOversized = sc.closeOversized.past es := by
      unfold closeOversized
      rw [past_frame es hentry, reportWtError_frame]
      simp only [frame, past, Option.map_map]
      rfl
    rw [← hclosed]
    exact loop_of_stop hturn
  · intro sc w type payload rest sc' hentry hlive hhead hsc' ih
    have hentry' : (sc.past es).entry = some w := hentry
    have hturn := loopTurn_live hentry' hlive
    have hhead' : readHead (sc.past es).config w.capsuleBuffer = .capsule type payload rest := hhead
    rw [hhead'] at hturn
    have hrest : (sc.setEntry (w.withBuffer rest)).entry = some (w.withBuffer rest) := rfl
    have hframe := processCapsule_frame es rest hrest type payload
      (w.capsuleBuffer.length - rest.length)
    have hkeep := processCapsule_entry hrest type payload (w.capsuleBuffer.length - rest.length)
    have hpast : ((sc.past es).setEntry (w.withBuffer rest)).processCapsule type payload
        (w.capsuleBuffer.length - rest.length) = sc'.past es := by
      have hleft : (sc.past es).setEntry (w.withBuffer rest) =
          (sc.setEntry (w.withBuffer rest)).frame es rest := rfl
      rw [hleft, hframe, hsc', hkeep]
      simp only [frame, past, Option.map_map, List.nil_append]
      rfl
    rw [loop_of_again hturn, hpast]
    exact ih

end SessionScope

end H2
end WebTransport
