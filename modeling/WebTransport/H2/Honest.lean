import WebTransport.H2.Account

/-!
# H2.Honest — capsules of an honest peer are accepted

`handle_wt_stream` and its siblings check every capsule against the counters of the session entry
and close the session with an error when a check fails.  Here the checks are met: an endpoint whose
entry is accounted for (`H2.Account`) accepts the next capsule of a peer that speaks by the protocol
(`Received.Next`), only about streams this side has spoken about (`Received.Expected`) and within
the credit it was given (`Received.Covered`).

* `Account.accepts` : no such capsule is refused, and none closes the session.
-/

namespace WebTransport
namespace H2

open Bindings
open Received

/-- The credit that the capsule uses up has been given. -/
structure Received.Covered (isServer : Bool) (own : H2SessionConfig) (w : WtSessionInfo)
    (said heard : List Received) (r : Received) : Prop where
  session : dataBytes (heard ++ [r]) ≤ w.maxDataRemote
  stream : ∀ id, dataBytes (about id (heard ++ [r])) ≤
    top own.wtInitialMaxStreamData (streamGrants (about id said))
  count : ∀ id, r.stream? = some id → r.isData = true → isServerId id ≠ isServer →
    id / 4 < w.maxStreamsRemote (isUniId id)

/-- The capsule is let through. -/
def Verdict.Accepts : Verdict → Prop
  | .accept _ _ _ => True
  | _ => False

section Accepts

variable {isServer : Bool} {own other : H2SessionConfig} {w : WtSessionInfo} {id : Nat}
  {said heard : List Received} {info : WtStreamInfo}

/-- The end of a stream that the peer may still send on has not been heard. -/
theorem Account.not_released (h : Account isServer own other w said heard)
    (hdir : isReceivableDataCapsule id isServer = true) (hended : ended (about id heard) = false) :
    id ∉ w.releasedStreamIds := by
  intro hmem
  have hdone := ((h.stream id).released hmem).recv hdir
  rw [hended] at hdone
  exact Bool.false_ne_true hdone

/-- A stream without an entry that the peer begins is one it may open. -/
theorem Account.below_limit (h : Account isServer own other w said heard) {r : Received}
    (hr : r.stream? = some id) (hdata : r.isData = true) (hnone : w.streams.find? id = none)
    (hdir : isReceivableDataCapsule id isServer = true) (hended : ended (about id heard) = false)
    (hexpected : Expected isServer said r) (hcovered : Covered isServer own w said heard r) :
    w.incomingStreamExceedsLimit id = false := by
  have hunborn := (h.stream id).unborn hnone hdir hended
  have hpeer : isServerId id ≠ isServer := by
    intro hown
    have hbegun := hexpected id hr (Or.inl ⟨hdata, hown⟩)
    rw [hunborn.silent] at hbegun
    exact Bool.false_ne_true hbegun
  have hlt := hcovered.count id hr hdata hpeer
  unfold WtSessionInfo.incomingStreamExceedsLimit
  exact decide_eq_false (not_lt.2 hlt)

/-- A stream that the peer has not stopped is not marked as stopped. -/
theorem Account.not_stopped (h : Account isServer own other w said heard)
    (hopen : Received.stopped (about id heard) = false) : w.hasReceivedStopSending id = false := by
  unfold WtSessionInfo.hasReceivedStopSending
  split_ifs with hmem
  · have hstopped := (h.stream id).stop_heard hmem
    rw [hopen] at hstopped
    exact absurd hstopped Bool.false_ne_true
  · cases hfind : w.streams.find? id with
    | none => rfl
    | some info =>
        refine Bool.eq_false_iff.2 ?_
        intro hmark
        have hstopped := ((h.stream id).found info hfind).stopped hmark
        rw [hopen] at hstopped
        exact Bool.false_ne_true hstopped

/-- The last limit on a stream is one that was heard. -/
theorem Account.previous_le (h : Account isServer own other w said heard) {previous : Nat}
    (hprevious : SessionScope.previousMaxStreamData isServer w id = some previous) :
    previous ≤ top other.wtInitialMaxStreamData (streamGrants (about id heard)) := by
  unfold SessionScope.previousMaxStreamData at hprevious
  cases hrecorded : w.receivedMaxStreamDataById.find? id with
  | some recorded =>
      rw [hrecorded] at hprevious
      cases hprevious
      exact le_top_of_mem ((h.stream id).limit_heard _ hrecorded)
  | none =>
      rw [hrecorded] at hprevious
      cases hfind : w.streams.find? id with
      | some info =>
          rw [hfind] at hprevious
          cases hprevious
          exact ((h.stream id).found info hfind).limit.le
      | none =>
          rw [hfind] at hprevious
          exact (h.credits.advertised _ _ _ hprevious).trans (le_top _ _)

/-- Stream data against the entry that counts the stream. -/
theorem judgeStreamData_accepts {w' : WtSessionInfo} {fin : Bool} {data : Bytes}
    (hbooks : Books own other info (about id said) (about id heard))
    (hended : ended (about id heard) = false) (hreceived : w'.bytesReceived = dataBytes heard)
    (hremote : w'.maxDataRemote = w.maxDataRemote)
    (hcovered : Covered isServer own w said heard (.stream fin id data)) :
    (w'.judgeStreamData own info id fin data).Accepts := by
  have hopen : info.recvState.recvDone = false := hbooks.recv_done.trans hended
  have hsession : w'.bytesReceived + data.length ≤ w'.maxDataRemote := by
    have hle := hcovered.session
    rw [dataBytes_append, dataBytes_one] at hle
    rw [hreceived, hremote]
    exact hle
  have hstream : info.bytesReceived + data.length ≤ info.maxStreamDataRemote := by
    have hle := hcovered.stream id
    rw [about_append, about_self rfl, dataBytes_append, dataBytes_one,
      top_of_ascends hbooks.granted] at hle
    rw [hbooks.received]
    exact hle
  unfold WtSessionInfo.judgeStreamData
  rw [if_neg, if_neg]
  · trivial
  · exact not_or.2 ⟨not_lt.2 hsession, not_lt.2 hstream⟩
  · rw [hopen]
    exact fun habsurd => Bool.false_ne_true habsurd.2

/-- No check fails on a capsule of an honest peer. -/
theorem Account.accepts (h : Account isServer own other w said heard) {r : Received}
    (hnext : Next (!isServer) other heard r) (hexpected : Expected isServer said r)
    (hcovered : Covered isServer own w said heard r) : (w.judge own isServer r).Accepts := by
  cases r with
  | stream fin streamId data =>
      have hdir : isReceivableDataCapsule streamId isServer = true :=
        (isReceivableFlowCapsule_not streamId isServer).symm.trans hnext.1
      have hended := hnext.2
      simp only [WtSessionInfo.judge, WtSessionInfo.judgeStream, hdir, Bool.not_true,
        Bool.false_eq_true, if_false]
      cases hfind : w.streams.find? streamId with
      | some info =>
          exact judgeStreamData_accepts ((h.stream streamId).found info hfind) hended h.received rfl
            hcovered
      | none =>
          have hbelow := h.below_limit rfl rfl hfind hdir hended hexpected hcovered
          have hunborn := (h.stream streamId).unborn hfind hdir hended
          have hbooks := (h.stream streamId).fresh hunborn h.credits
            (isServerId streamId == isServer) (isUniId streamId)
          simp only [h.not_released hdir hended, hbelow, Bool.false_eq_true, if_false]
          exact judgeStreamData_accepts (w := w) hbooks hended h.received rfl hcovered
  | resetStream streamId errorCode reliableSize =>
      have hdir : isReceivableDataCapsule streamId isServer = true :=
        (isReceivableFlowCapsule_not streamId isServer).symm.trans hnext.1
      have hended := hnext.2.1
      have hsize := hnext.2.2
      simp only [WtSessionInfo.judge, WtSessionInfo.judgeReset, hdir, Bool.not_true,
        Bool.false_eq_true, if_false]
      cases hfind : w.streams.find? streamId with
      | some info =>
          have hbooks := (h.stream streamId).found info hfind
          have hopen : info.recvState.recvDone = false := hbooks.recv_done.trans hended
          have hsame : reliableSize = info.bytesReceived := hsize.trans hbooks.received.symm
          simp only [hopen, hsame, Bool.false_eq_true, if_false, ne_eq, not_true_eq_false]
          trivial
      | none =>
          have hbelow := h.below_limit rfl rfl hfind hdir hended hexpected hcovered
          have hunborn := (h.stream streamId).unborn hfind hdir hended
          have hzero : reliableSize = 0 := hsize.trans (dataBytes_of_not_begun hunborn.not_begun)
          simp only [h.not_released hdir hended, hbelow, hzero, Bool.false_eq_true, if_false,
            Nat.lt_irrefl, gt_iff_lt]
          trivial
  | stopSending streamId errorCode =>
      have hdir : isReceivableFlowCapsule streamId isServer = true :=
        (isReceivableDataCapsule_not streamId isServer).symm.trans hnext.1
      have hfirst : w.hasReceivedStopSending streamId = false := h.not_stopped hnext.2
      simp only [WtSessionInfo.judge, WtSessionInfo.judgeStopSending, hdir, hfirst, Bool.not_true,
        Bool.false_eq_true, if_false]
      cases w.streams.find? streamId with
      | some info => trivial
      | none =>
          dsimp only
          split_ifs <;> trivial
  | maxData limit =>
      have hrise : (w.receivedMaxData.any fun received => limit < received) = false := by
        cases hheard : w.receivedMaxData with
        | none => rfl
        | some received =>
            have hle := (h.data_heard received hheard).trans (h.data_limit.trans_le hnext)
            exact decide_eq_false (not_lt.2 hle)
      simp only [WtSessionInfo.judge, WtSessionInfo.judgeMaxData, hrise, Bool.false_eq_true,
        if_false]
      split_ifs <;> trivial
  | maxStreamData streamId limit =>
      have hdir : isReceivableFlowCapsule streamId isServer = true :=
        (isReceivableDataCapsule_not streamId isServer).symm.trans hnext.1
      have hopen : w.hasReceivedStopSending streamId = false := h.not_stopped hnext.2.1
      have hrise : ((SessionScope.previousMaxStreamData isServer w streamId).any fun previous =>
          limit < previous) = false := by
        cases hprevious : SessionScope.previousMaxStreamData isServer w streamId with
        | none => rfl
        | some previous =>
            exact decide_eq_false (not_lt.2 ((h.previous_le hprevious).trans hnext.2.2))
      simp only [WtSessionInfo.judge, WtSessionInfo.judgeMaxStreamData, hdir, hopen, hrise,
        Bool.not_true, Bool.false_eq_true, if_false]
      cases w.streams.find? streamId with
      | none => trivial
      | some info =>
          dsimp only
          split_ifs <;> trivial
  | maxStreams isBidi limit =>
      have hrise : ((w.receivedMaxStreams (!isBidi)).any fun received => limit < received) =
          false := by
        cases hheard : w.receivedMaxStreams (!isBidi) with
        | none => rfl
        | some received =>
            have hle := ((h.count (!isBidi)).limit_heard received hheard).trans
              ((h.count (!isBidi)).limit.trans_le hnext.2)
            exact decide_eq_false (not_lt.2 hle)
      have hle : ¬ limit > kMaxStreamsLimit := not_lt.2 hnext.1
      cases isBidi with
      | true =>
          have hrise' : (w.receivedMaxStreamsBidi.any fun received => limit < received) = false :=
            hrise
          simp only [WtSessionInfo.judge, WtSessionInfo.judgeMaxStreams, hle, hrise', if_false,
            if_true,
            Bool.false_eq_true]
          split_ifs <;> trivial
      | false =>
          have hrise' : (w.receivedMaxStreamsUni.any fun received => limit < received) = false :=
            hrise
          simp only [WtSessionInfo.judge, WtSessionInfo.judgeMaxStreams, hle, hrise', if_false,
            Bool.false_eq_true]
          split_ifs <;> trivial
  | streamDataBlocked streamId =>
      have hdir : isReceivableDataCapsule streamId isServer = true :=
        (isReceivableFlowCapsule_not streamId isServer).symm.trans hnext.1
      have hopen : ((w.streams.find? streamId).any fun info => info.recvState.recvDone) =
          false := by
        cases hfind : w.streams.find? streamId with
        | none => rfl
        | some info => exact ((h.stream streamId).found info hfind).recv_done.trans hnext.2
      simp only [WtSessionInfo.judge, WtSessionInfo.judgeStreamDataBlocked, hdir, hopen,
        h.not_released hdir hnext.2, Bool.not_true, Bool.false_eq_true, if_false]
      trivial
  | streamsBlocked limit =>
      have hle : ¬ limit > kMaxStreamsLimit := not_lt.2 hnext
      simp only [WtSessionInfo.judge, hle, if_false]
      trivial
  | closeSession errorCode message => cases hnext
  | datagram data => trivial
  | drainSession => trivial
  | ignored => trivial

end Accepts

end H2
end WebTransport
