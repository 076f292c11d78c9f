import WebTransport.Data.Ascent
import WebTransport.H2.Directions
import WebTransport.H2.Grants
import WebTransport.H2.Histories

/-!
# H2.Account — the counters of an endpoint and what was said

Everything the flow control of a session decides on is a count of what went over the wire.  For an
endpoint that has said `said` and heard `heard`:

* `Books`         : the entry of a stream against the capsules about it;
* `StreamAccount` : a stream id, whether it has an entry, had one, or never got one;
* `Account`       : the whole session entry.

`Account.change` is the step lemma: every change of `H2.Transitions` keeps the account, and what it
says may follow what was said before, as long as the peer speaks by the protocol.
-/

namespace WebTransport
namespace H2

open Bindings
open Received

namespace Label

/-- What a change tells the peer. -/
def tells : Label → List Received
  | .sent c => [c.received]
  | _ => []

/-- What a change takes in from the peer. -/
def hears : Label → List Received
  | .received r _ => [r]
  | _ => []

@[simp] theorem tells_received (r : Received) (events : List H2Event) :
    (received r events).tells = [] := rfl

@[simp] theorem tells_internal : internal.tells = [] := rfl

@[simp] theorem hears_internal : internal.hears = [] := rfl

theorem flatMap_tells (ls : List Label) : ls.flatMap tells = (sentOf ls).map Capsule.received := by
  induction ls with
  | nil => rfl
  | cons l ls ih =>
      cases l with
      | sent c => exact congrArg (c.received :: ·) ih
      | _ => exact ih

theorem flatMap_hears (ls : List Label) : ls.flatMap hears = receivedOf ls := by
  induction ls with
  | nil => rfl
  | cons l ls ih =>
      cases l with
      | received r events => exact congrArg (r :: ·) ih
      | _ => exact ih

end Label

/-- Limits that never fall end at the highest of them. -/
theorem top_of_ascends {initial limit : Nat} {grants : List Nat}
    (h : Ascends initial grants limit) :
    top initial grants = limit := h.foldl_max

/-! ## One stream -/

/-- The entry of a stream counts what was said and heard about it. -/
structure Books (own other : H2SessionConfig) (info : WtStreamInfo) (said heard : List Received) :
    Prop where
  sent : info.bytesSent = dataBytes said
  send_done : info.sendState.sendDone = ended said
  received : info.bytesReceived = dataBytes heard
  recv_done : info.recvState.recvDone = ended heard
  granted : Ascends own.wtInitialMaxStreamData (streamGrants said) info.maxStreamDataRemote
  limit : info.maxStreamDataLocal = top other.wtInitialMaxStreamData (streamGrants heard)
  stopped : info.stopSendingReceived = true → Received.stopped heard = true

section Books

variable {own other : H2SessionConfig} {info info' : WtStreamInfo} {said heard : List Received}

/-- The entry and what is newly said and heard move together. -/
theorem Books.after (h : Books own other info said heard) {more more' : List Received}
    (hsent : info'.bytesSent = info.bytesSent + dataBytes more)
    (hsend : info'.sendState.sendDone = (info.sendState.sendDone || ended more))
    (hreceived : info'.bytesReceived = info.bytesReceived + dataBytes more')
    (hrecv : info'.recvState.recvDone = (info.recvState.recvDone || ended more'))
    (hgranted : Ascends info.maxStreamDataRemote (streamGrants more) info'.maxStreamDataRemote)
    (hlimit : info'.maxStreamDataLocal = top info.maxStreamDataLocal (streamGrants more'))
    (hstopped : info'.stopSendingReceived = true →
      info.stopSendingReceived = true ∨ Received.stopped more' = true) :
    Books own other info' (said ++ more) (heard ++ more') := by
  refine ⟨?_, ?_, ?_, ?_, ?_, ?_, ?_⟩
  · rw [dataBytes_append, ← h.sent]
    exact hsent
  · rw [ended_append, ← h.send_done]
    exact hsend
  · rw [dataBytes_append, ← h.received]
    exact hreceived
  · rw [ended_append, ← h.recv_done]
    exact hrecv
  · rw [streamGrants_append]
    exact h.granted.append hgranted
  · rw [streamGrants_append, top_append, ← h.limit]
    exact hlimit
  · intro hstop
    rw [stopped_append, Bool.or_eq_true]
    exact (hstopped hstop).imp h.stopped id

end Books

/-- Every half that the stream has is over. -/
structure Concluded (isServer : Bool) (id : Nat) (said heard : List Received) : Prop where
  send : isReceivableFlowCapsule id isServer = true → ended said = true
  recv : isReceivableDataCapsule id isServer = true → ended heard = true

theorem Concluded.append {isServer : Bool} {id : Nat} {said heard : List Received}
    (h : Concluded isServer id said heard) (more more' : List Received) :
    Concluded isServer id (said ++ more) (heard ++ more') := by
  refine ⟨?_, ?_⟩
  · intro hdir
    rw [ended_append, h.send hdir]
    rfl
  · intro hdir
    rw [ended_append, h.recv hdir]
    rfl

/-- Nothing has happened on the stream that needs an entry. -/
structure Unborn (said heard : List Received) : Prop where
  silent : said = []
  not_begun : begun heard = false
  not_granted : streamGrants heard = []

/-- A stream id of the session, with `said` and `heard` about it. -/
structure StreamAccount (isServer : Bool) (own other : H2SessionConfig) (w : WtSessionInfo)
    (id : Nat) (said heard : List Received) : Prop where
  found : ∀ info, w.streams.find? id = some info → Books own other info said heard
  absent : w.streams.find? id = none → Concluded isServer id said heard ∨ Unborn said heard
  within : dataBytes said ≤ top other.wtInitialMaxStreamData (streamGrants heard)
  unopened : isServerId id = isServer → w.nextCounter (isUniId id) ≤ id / 4 →
    w.streams.find? id = none ∧ said = []
  answered : isServerId id ≠ isServer → w.streams.find? id ≠ none ∨ said ≠ [] →
    begun heard = true
  released : id ∈ w.releasedStreamIds → Concluded isServer id said heard
  stop_sent : Received.stopped said = true → id ∈ w.sentStopSendingStreamIds
  stop_heard : id ∈ w.receivedStopSendingStreamIds → Received.stopped heard = true
  limit_heard : ∀ limit, w.receivedMaxStreamDataById.find? id = some limit →
    limit ∈ streamGrants heard

namespace WtSessionInfo

/-- What the entry of the session holds about a stream id. -/
def aboutStream (id : Nat) (w : WtSessionInfo) :
    Option WtStreamInfo × Prop × Prop × Prop × Option Nat :=
  (w.streams.find? id, id ∈ w.releasedStreamIds, id ∈ w.sentStopSendingStreamIds,
    id ∈ w.receivedStopSendingStreamIds, w.receivedMaxStreamDataById.find? id)

end WtSessionInfo

section Streams

variable {isServer : Bool} {own other : H2SessionConfig} {w w' : WtSessionInfo} {id : Nat}
  {said heard : List Received}

/-- A change beside the stream. -/
theorem StreamAccount.beside (h : StreamAccount isServer own other w id said heard)
    (hsame : w'.aboutStream id = w.aboutStream id)
    (hnext : ∀ isUni, w.nextCounter isUni ≤ w'.nextCounter isUni) :
    StreamAccount isServer own other w' id said heard := by
  have hfind : w'.streams.find? id = w.streams.find? id := congrArg Prod.fst hsame
  have hreleased : (id ∈ w'.releasedStreamIds) = (id ∈ w.releasedStreamIds) :=
    congrArg (fun v => v.2.1) hsame
  have hsent : (id ∈ w'.sentStopSendingStreamIds) = (id ∈ w.sentStopSendingStreamIds) :=
    congrArg (fun v => v.2.2.1) hsame
  have hheard : (id ∈ w'.receivedStopSendingStreamIds) = (id ∈ w.receivedStopSendingStreamIds) :=
    congrArg (fun v => v.2.2.2.1) hsame
  have hlimit : w'.receivedMaxStreamDataById.find? id = w.receivedMaxStreamDataById.find? id :=
    congrArg (fun v => v.2.2.2.2) hsame
  refine ⟨?_, ?_, h.within, ?_, ?_, ?_, ?_, ?_, ?_⟩
  · rw [hfind]
    exact h.found
  · rw [hfind]
    exact h.absent
  · intro hown hle
    rw [hfind]
    exact h.unopened hown ((hnext _).trans hle)
  · rw [hfind]
    exact h.answered
  · rw [hreleased]
    exact h.released
  · rw [hsent]
    exact h.stop_sent
  · rw [hheard]
    exact h.stop_heard
  · rw [hlimit]
    exact h.limit_heard

/-- The stream has an entry behind a change that says and hears `more` and `more'` about it. -/
theorem StreamAccount.entry {info' : WtStreamInfo} {more more' : List Received}
    (h : StreamAccount isServer own other w id said heard)
    (hfind : w'.streams.find? id = some info')
    (hbooks : Books own other info' (said ++ more) (heard ++ more'))
    (hsent_le : info'.bytesSent ≤ info'.maxStreamDataLocal)
    (hopened : isServerId id = isServer → id / 4 < w'.nextCounter (isUniId id))
    (hanswered : isServerId id ≠ isServer → begun (heard ++ more') = true)
    (hreleased : w'.releasedStreamIds = w.releasedStreamIds)
    (hstop_sent : Received.stopped more = true ∨ id ∈ w.sentStopSendingStreamIds →
      id ∈ w'.sentStopSendingStreamIds)
    (hstop_heard : id ∈ w'.receivedStopSendingStreamIds →
      id ∈ w.receivedStopSendingStreamIds ∨ Received.stopped more' = true)
    (hlimit : ∀ limit, w'.receivedMaxStreamDataById.find? id = some limit →
      w.receivedMaxStreamDataById.find? id = some limit ∨ limit ∈ streamGrants more') :
    StreamAccount isServer own other w' id (said ++ more) (heard ++ more') := by
  refine ⟨?_, ?_, ?_, ?_, ?_, ?_, ?_, ?_, ?_⟩
  · intro info'' hfound
    cases hfind.symm.trans hfound
    exact hbooks
  · intro hnone
    cases hfind.symm.trans hnone
  · rw [← hbooks.sent, ← hbooks.limit]
    exact hsent_le
  · intro hown hle
    exact absurd hle (not_le.2 (hopened hown))
  · intro hpeer _
    exact hanswered hpeer
  · intro hmem
    rw [hreleased] at hmem
    exact (h.released hmem).append more more'
  · intro hstop
    rw [stopped_append, Bool.or_eq_true] at hstop
    exact hstop_sent (hstop.symm.imp_right h.stop_sent)
  · intro hmem
    rw [stopped_append, Bool.or_eq_true]
    exact (hstop_heard hmem).imp_left h.stop_heard
  · intro limit hfound
    rw [streamGrants_append, List.mem_append]
    exact (hlimit limit hfound).imp_left (h.limit_heard limit)

/-- A stream with an entry has been opened here or begun by the peer. -/
theorem StreamAccount.live {info : WtStreamInfo}
    (h : StreamAccount isServer own other w id said heard)
    (hfind : w.streams.find? id = some info) :
    (isServerId id = isServer → id / 4 < w.nextCounter (isUniId id)) ∧
      (isServerId id ≠ isServer → begun heard = true) := by
  have hborn : w.streams.find? id ≠ none := by
    rw [hfind]
    exact Option.some_ne_none info
  refine ⟨?_, ?_⟩
  · intro hown
    by_contra hle
    exact hborn (h.unopened hown (not_lt.1 hle)).1
  · intro hpeer
    exact h.answered hpeer (Or.inl hborn)

/-- A change of an entry that was there. -/
theorem StreamAccount.rewrite {info info' : WtStreamInfo} {more more' : List Received}
    (h : StreamAccount isServer own other w id said heard)
    (hfind : w.streams.find? id = some info) (hfind' : w'.streams.find? id = some info')
    (hbooks : Books own other info' (said ++ more) (heard ++ more'))
    (hsent_le : info'.bytesSent ≤ info'.maxStreamDataLocal)
    (hnext : ∀ isUni, w'.nextCounter isUni = w.nextCounter isUni)
    (hreleased : w'.releasedStreamIds = w.releasedStreamIds)
    (hstop_sent : Received.stopped more = true ∨ id ∈ w.sentStopSendingStreamIds →
      id ∈ w'.sentStopSendingStreamIds)
    (hstop_heard : id ∈ w'.receivedStopSendingStreamIds →
      id ∈ w.receivedStopSendingStreamIds ∨ Received.stopped more' = true)
    (hlimit : ∀ limit, w'.receivedMaxStreamDataById.find? id = some limit →
      w.receivedMaxStreamDataById.find? id = some limit ∨ limit ∈ streamGrants more') :
    StreamAccount isServer own other w' id (said ++ more) (heard ++ more') := by
  rcases h.live hfind with ⟨hopened, hbegun⟩
  refine h.entry hfind' hbooks hsent_le ?_ ?_ hreleased hstop_sent hstop_heard hlimit
  · intro hown
    rw [hnext]
    exact hopened hown
  · intro hpeer
    rw [begun_append, hbegun hpeer]
    rfl

/-- A capsule about a stream without an entry that does not create one. -/
theorem StreamAccount.hear_absent {r : Received}
    (h : StreamAccount isServer own other w id said heard) (hnone : w.streams.find? id = none)
    (hnone' : w'.streams.find? id = none) (hdata : r.isData = false)
    (hgrant : r.streamGrant ≠ none → said ≠ [])
    (hnext : ∀ isUni, w'.nextCounter isUni = w.nextCounter isUni)
    (hreleased : w'.releasedStreamIds = w.releasedStreamIds)
    (hstop_sent : w'.sentStopSendingStreamIds = w.sentStopSendingStreamIds)
    (hstop_heard : id ∈ w'.receivedStopSendingStreamIds →
      id ∈ w.receivedStopSendingStreamIds ∨ r.isStop = true)
    (hlimit : ∀ limit, w'.receivedMaxStreamDataById.find? id = some limit →
      w.receivedMaxStreamDataById.find? id = some limit ∨ limit ∈ streamGrants [r]) :
    StreamAccount isServer own other w' id said (heard ++ [r]) := by
  have hover : Concluded isServer id said heard → Concluded isServer id said (heard ++ [r]) := by
    intro hover
    have hmore := hover.append [] [r]
    rwa [List.append_nil] at hmore
  refine ⟨?_, ?_, ?_, ?_, ?_, ?_, ?_, ?_, ?_⟩
  · intro info hfound
    cases hnone'.symm.trans hfound
  · intro _
    rcases h.absent hnone with hdone | hunborn
    · exact Or.inl (hover hdone)
    · refine Or.inr ⟨hunborn.silent, ?_, ?_⟩
      · rw [begun_append, hunborn.not_begun, begun_one, hdata]
        rfl
      · have hno : r.streamGrant = none := by
          by_contra hsome
          exact hgrant hsome hunborn.silent
        rw [streamGrants_append, hunborn.not_granted]
        simp only [streamGrants, List.filterMap_cons, hno, List.filterMap_nil, List.nil_append]
  · rw [streamGrants_append]
    exact h.within.trans (top_le_append _ _ _)
  · intro hown hle
    rw [hnext] at hle
    exact ⟨hnone', (h.unopened hown hle).2⟩
  · intro hpeer hor
    have hsaid : said ≠ [] := by
      rcases hor with hfound | hsaid
      · exact absurd hnone' hfound
      · exact hsaid
    rw [begun_append, h.answered hpeer (Or.inr hsaid)]
    rfl
  · intro hmem
    rw [hreleased] at hmem
    exact hover (h.released hmem)
  · intro hstop
    rw [hstop_sent]
    exact h.stop_sent hstop
  · intro hmem
    rw [stopped_append, stopped_one, Bool.or_eq_true]
    exact (hstop_heard hmem).imp_left h.stop_heard
  · intro limit hfound
    rw [streamGrants_append, List.mem_append]
    exact (hlimit limit hfound).imp_left (h.limit_heard limit)

/-- The entry of a stream that is released goes. -/
theorem StreamAccount.drop {info : WtStreamInfo}
    (h : StreamAccount isServer own other w id said heard) (hfind : w.streams.find? id = some info)
    (hwf : WtSessionInfo.WfStream isServer id info)
    (hreleasable : WtSessionInfo.releasable info = true) :
    StreamAccount isServer own other (w.dropStream id info) id said heard := by
  have hbooks := h.found info hfind
  rcases h.live hfind with ⟨hopened, hbegun⟩
  have hnone : (w.dropStream id info).streams.find? id = none := by
    change (w.streams.erase id).find? id = none
    rw [OrdMap.find?_erase, if_pos rfl]
  have hover : Concluded isServer id said heard := by
    rw [WtSessionInfo.releasable, hwf.uni_eq, hwf.local_eq, hbooks.send_done, hbooks.recv_done]
      at hreleasable
    cases huni : isUniId id with
    | false =>
        rw [huni, if_neg Bool.false_ne_true, Bool.and_eq_true] at hreleasable
        exact ⟨fun _ => hreleasable.1, fun _ => hreleasable.2⟩
    | true =>
        rw [huni, if_pos rfl] at hreleasable
        refine ⟨?_, ?_⟩
        · intro hdir
          have hlocal : (isServerId id == isServer) = true := by
            rw [isReceivableFlowCapsule, huni] at hdir
            simpa using hdir
          rwa [if_pos hlocal] at hreleasable
        · intro hdir
          have hremote : (isServerId id == isServer) = false := by
            rw [isReceivableDataCapsule, huni] at hdir
            simpa using hdir
          rwa [hremote, if_neg Bool.false_ne_true] at hreleasable
  refine ⟨?_, fun _ => Or.inl hover, h.within, ?_, fun hpeer _ => hbegun hpeer, fun _ => hover,
    h.stop_sent, h.stop_heard, h.limit_heard⟩
  · intro info' hfound
    cases hnone.symm.trans hfound
  · intro hown hle
    exact absurd hle (not_le.2 (hopened hown))

end Streams

/-! ## Streams that get an entry -/

/-- The credit of every stream at first is the one the peer's configuration gives. -/
structure Credits (other : H2SessionConfig) (w : WtSessionInfo) : Prop where
  credit : ∀ isUni isLocal, w.peerSendCreditForStream isUni isLocal = other.wtInitialMaxStreamData
  advertised : ∀ isUni isLocal limit, w.advertisedStreamSendCredit isUni isLocal = some limit →
    limit ≤ other.wtInitialMaxStreamData

/-- What an endpoint that has said `said` waits for: the peer speaks about a stream of this side,
and raises the limit of any stream, only when it has heard of it. -/
def Received.Expected (isServer : Bool) (said : List Received) (r : Received) : Prop :=
  ∀ id, r.stream? = some id →
    r.isData = true ∧ isServerId id = isServer ∨ r.streamGrant ≠ none →
      begun (about id said) = true

section Births

variable {isServer : Bool} {own other : H2SessionConfig} {w w' : WtSessionInfo} {id : Nat}
  {said heard : List Received}

/-- The fresh entry of a stream. -/
theorem StreamAccount.fresh (h : StreamAccount isServer own other w id said heard)
    (hunborn : Unborn said heard) (hcredits : Credits other w) (isLocal isUni : Bool) :
    Books own other (w.newStream own id isLocal isUni) said heard := by
  have hnever : w.receivedMaxStreamDataById.find? id = none := by
    by_contra hsome
    rcases Option.ne_none_iff_exists'.1 hsome with ⟨limit, hlimit⟩
    have hmem := h.limit_heard limit hlimit
    rw [hunborn.not_granted] at hmem
    exact List.not_mem_nil hmem
  have hlimit : (w.newStream own id isLocal isUni).maxStreamDataLocal =
      other.wtInitialMaxStreamData := by
    simp only [WtSessionInfo.newStream, WtSessionInfo.initializeStreamSendCredit, hnever]
    exact hcredits.credit isUni isLocal
  have hplain : (w.newStream own id isLocal isUni).bytesSent = 0 ∧
      (w.newStream own id isLocal isUni).bytesReceived = 0 ∧
      (w.newStream own id isLocal isUni).sendState = .ready ∧
      (w.newStream own id isLocal isUni).recvState = .recv ∧
      (w.newStream own id isLocal isUni).stopSendingReceived = false ∧
      (w.newStream own id isLocal isUni).maxStreamDataRemote = own.wtInitialMaxStreamData := by
    simp only [WtSessionInfo.newStream, WtSessionInfo.initializeStreamSendCredit, hnever, and_self]
  rcases hplain with ⟨hsent, hreceived, hsend, hrecv, hstopped, hgranted⟩
  refine ⟨?_, ?_, ?_, ?_, ?_, ?_, ?_⟩
  · rw [hsent, hunborn.silent]
    rfl
  · rw [hsend, hunborn.silent]
    rfl
  · rw [hreceived, dataBytes_of_not_begun hunborn.not_begun]
  · rw [hrecv, ended_of_not_begun hunborn.not_begun]
    rfl
  · rw [hgranted, hunborn.silent]
    exact .nil _
  · rw [hlimit, hunborn.not_granted]
    rfl
  · rw [hstopped]
    exact fun habsurd => absurd habsurd Bool.false_ne_true

/-- A stream that the peer may still send on and that has no entry was never there. -/
theorem StreamAccount.unborn (h : StreamAccount isServer own other w id said heard)
    (hnone : w.streams.find? id = none) (hdir : isReceivableDataCapsule id isServer = true)
    (hended : ended heard = false) : Unborn said heard := by
  rcases h.absent hnone with hover | hunborn
  · have hdone := hover.recv hdir
    rw [hended] at hdone
    exact absurd hdone Bool.false_ne_true
  · exact hunborn

/-- The entry that received data reaches is counted. -/
theorem StreamAccount.reached {permits : Permits} {info : WtStreamInfo}
    (h : StreamAccount isServer own other w id said heard)
    (hreaches : WtSessionInfo.Reaches permits own isServer w id info)
    (hdir : isReceivableDataCapsule id isServer = true) (hended : ended heard = false)
    (hcredits : Credits other w) : Books own other info said heard := by
  cases hreaches with
  | existing hfind => exact h.found info hfind
  | created _ hnone _ _ => exact h.fresh (h.unborn hnone hdir hended) hcredits _ _

/-- A stream id that the counters have not reached is free, and the next `open_stream` gives it an
entry. -/
theorem StreamAccount.opens (h : StreamAccount isServer own other w id said heard) (isUni : Bool)
    (hid : id = w.nextStreamId isServer isUni) (hcredits : Credits other w) :
    StreamAccount isServer own other ((w.allocateStreamId isUni).setStream id
      (w.newStream own id true isUni)) id said heard := by
  have huni : isUniId id = isUni := by
    rw [hid]
    exact isUniId_buildStreamId _ _ _
  have hown : isServerId id = isServer := by
    rw [hid]
    exact isServerId_buildStreamId _ _ _
  have hindex : id / 4 = w.nextCounter isUni := by
    rw [hid]
    exact buildStreamId_div _ _ _
  have hle : w.nextCounter (isUniId id) ≤ id / 4 := by rw [huni, hindex]
  rcases h.unopened hown hle with ⟨hnone, hsilent⟩
  have hsends : isReceivableFlowCapsule id isServer = true := by
    unfold isReceivableFlowCapsule
    rw [hown, beq_self_eq_true]
    split_ifs <;> rfl
  have hunborn : Unborn said heard := by
    rcases h.absent hnone with hover | hunborn
    · have hdone := hover.send hsends
      rw [hsilent] at hdone
      exact absurd hdone Bool.false_ne_true
    · exact hunborn
  have hbooks := h.fresh hunborn hcredits true isUni
  have hmore : StreamAccount isServer own other ((w.allocateStreamId isUni).setStream id
      (w.newStream own id true isUni)) id (said ++ []) (heard ++ []) := by
    refine h.entry (WtSessionInfo.find?_setStream_self _ _ _) ?_ ?_ ?_ ?_ ?_ ?_ ?_ ?_
    · rw [List.append_nil, List.append_nil]
      exact hbooks
    · rw [hbooks.sent, hsilent]
      exact Nat.zero_le _
    · intro _
      rw [huni, hindex]
      cases isUni <;> exact Nat.lt_succ_self _
    · exact fun hpeer => absurd hown hpeer
    · cases isUni <;> rfl
    · intro hor
      have hmem : id ∈ w.sentStopSendingStreamIds :=
        hor.resolve_left fun habsurd => absurd habsurd Bool.false_ne_true
      cases isUni <;> exact hmem
    · cases isUni <;> exact fun hmem => Or.inl hmem
    · cases isUni <;> exact fun limit hlimit => Or.inl hlimit
  rwa [List.append_nil, List.append_nil] at hmore

end Births

/-! ## A change and one stream -/

section Change

variable {permits : Permits} {isServer : Bool} {own other : H2SessionConfig}
  {w w' : WtSessionInfo} {l : Label} {id streamId : Nat} {said heard : List Received}

/-- A change that speaks about no stream. -/
theorem StreamAccount.aside
    (h : StreamAccount isServer own other w id (about id said) (about id heard))
    (hsame : w'.aboutStream id = w.aboutStream id)
    (hnext : ∀ isUni, w'.nextCounter isUni = w.nextCounter isUni)
    (hl : ∀ r ∈ l.tells ++ l.hears, r.stream? = none) :
    StreamAccount isServer own other w' id (about id (said ++ l.tells))
      (about id (heard ++ l.hears)) := by
  have hnothing : ∀ rs : List Received, (∀ r ∈ rs, r.stream? = none) → about id rs = [] := by
    intro rs hrs
    refine List.filter_eq_nil_iff.2 ?_
    intro r hr
    rw [hrs r hr]
    exact Bool.false_ne_true
  have htells := hnothing l.tells fun r hr => hl r (List.mem_append_left _ hr)
  have hhears := hnothing l.hears fun r hr => hl r (List.mem_append_right _ hr)
  rw [about_append, about_append, htells, hhears, List.append_nil, List.append_nil]
  exact h.beside hsame fun isUni => (hnext isUni).ge

/-- A change that speaks about `streamId` only. -/
theorem StreamAccount.touch (streamId : Nat)
    (h : StreamAccount isServer own other w id (about id said) (about id heard))
    (hself : id = streamId → StreamAccount isServer own other w' id (about id said ++ l.tells)
      (about id heard ++ l.hears))
    (hother : id ≠ streamId → w'.aboutStream id = w.aboutStream id)
    (hnext : ∀ isUni, w.nextCounter isUni ≤ w'.nextCounter isUni)
    (hl : ∀ r ∈ l.tells ++ l.hears, r.stream? = some streamId) :
    StreamAccount isServer own other w' id (about id (said ++ l.tells))
      (about id (heard ++ l.hears)) := by
  rw [about_append, about_append]
  by_cases hid : id = streamId
  · have hall : ∀ rs : List Received, (∀ r ∈ rs, r.stream? = some streamId) → about id rs = rs := by
      intro rs hrs
      refine List.filter_eq_self.2 ?_
      intro r hr
      rw [hrs r hr, hid]
      exact decide_eq_true rfl
    rw [hall l.tells fun r hr => hl r (List.mem_append_left _ hr),
      hall l.hears fun r hr => hl r (List.mem_append_right _ hr)]
    exact hself hid
  · have hnone : ∀ rs : List Received, (∀ r ∈ rs, r.stream? = some streamId) →
      about id rs = [] := by
      intro rs hrs
      refine List.filter_eq_nil_iff.2 ?_
      intro r hr
      rw [hrs r hr, decide_eq_true_iff, Option.some_inj]
      exact fun heq => hid heq.symm
    rw [hnone l.tells fun r hr => hl r (List.mem_append_left _ hr),
      hnone l.hears fun r hr => hl r (List.mem_append_right _ hr), List.append_nil,
      List.append_nil]
    exact h.beside (hother hid) hnext

/-- A new value of the entry of `streamId` and nothing else of the streams. -/
theorem StreamAccount.revalue (streamId : Nat) {info info' : WtStreamInfo}
    (h : StreamAccount isServer own other w id (about id said) (about id heard))
    (hfind : w.streams.find? streamId = some info)
    (hstreams : w'.streams = w.streams.insert streamId info')
    (hbooks : ∀ S H, Books own other info S H → Books own other info' (S ++ l.tells) (H ++ l.hears))
    (hsent_le : info'.bytesSent ≤ info'.maxStreamDataLocal)
    (hsets : w'.releasedStreamIds = w.releasedStreamIds ∧
      w'.sentStopSendingStreamIds = w.sentStopSendingStreamIds ∧
      w'.receivedStopSendingStreamIds = w.receivedStopSendingStreamIds ∧
      w'.receivedMaxStreamDataById = w.receivedMaxStreamDataById)
    (hstop : Received.stopped l.tells = false)
    (hnext : ∀ isUni, w'.nextCounter isUni = w.nextCounter isUni)
    (hl : ∀ r ∈ l.tells ++ l.hears, r.stream? = some streamId) :
    StreamAccount isServer own other w' id (about id (said ++ l.tells))
      (about id (heard ++ l.hears)) := by
  rcases hsets with ⟨hreleased, hsent, hheard, hlimits⟩
  refine h.touch streamId ?_ ?_ (fun isUni => (hnext isUni).ge) hl
  · rintro rfl
    have hfind' : w'.streams.find? id = some info' := by
      rw [hstreams]
      exact OrdMap.find?_insert_self _ _ _
    refine h.rewrite hfind hfind' (hbooks _ _ (h.found info hfind)) hsent_le hnext hreleased
      ?_ ?_ ?_
    · rw [hstop, hsent]
      exact fun hor => hor.resolve_left Bool.false_ne_true
    · rw [hheard]
      exact Or.inl
    · rw [hlimits]
      exact fun limit hlimit => Or.inl hlimit
  · intro hne
    have hfind' : w'.streams.find? id = w.streams.find? id := by
      rw [hstreams, OrdMap.find?_insert, if_neg hne]
    simp only [WtSessionInfo.aboutStream, hfind', hreleased, hsent, hheard, hlimits]

/-- A data capsule, with the entry it reaches and the one it leaves. -/
theorem StreamAccount.data {info info' : WtStreamInfo} {r : Received}
    {events : List H2Event}
    (h : StreamAccount isServer own other w id (about id said) (about id heard))
    (hcredits : Credits other w) (hdir : isReceivableDataCapsule streamId isServer = true)
    (hreaches : WtSessionInfo.Reaches permits own isServer w streamId info)
    (hr : r.stream? = some streamId) (hdata : r.isData = true) (hgrant : r.streamGrant = none)
    (hended : ended (about streamId heard) = false) (hexpected : Expected isServer said r)
    (hsent : info'.bytesSent = info.bytesSent) (hsend : info'.sendState = info.sendState)
    (hreceived : info'.bytesReceived = info.bytesReceived + r.size)
    (hrecv : info'.recvState.recvDone = (info.recvState.recvDone || r.isEnd))
    (hgranted : info'.maxStreamDataRemote = info.maxStreamDataRemote)
    (hlimit : info'.maxStreamDataLocal = info.maxStreamDataLocal)
    (hstopped : info'.stopSendingReceived = info.stopSendingReceived)
    (hstreams : w'.streams = w.streams.insert streamId info')
    (hsets : w'.releasedStreamIds = w.releasedStreamIds ∧
      w'.sentStopSendingStreamIds = w.sentStopSendingStreamIds ∧
      w'.receivedStopSendingStreamIds = w.receivedStopSendingStreamIds ∧
      w'.receivedMaxStreamDataById = w.receivedMaxStreamDataById)
    (hnext : ∀ isUni, w'.nextCounter isUni = w.nextCounter isUni) :
    StreamAccount isServer own other w' id (about id (said ++ (Label.received r events).tells))
      (about id (heard ++ (Label.received r events).hears)) := by
  rcases hsets with ⟨hreleased, hstop_sent, hheard, hlimits⟩
  refine h.touch streamId ?_ ?_ (fun isUni => (hnext isUni).ge) ?_
  · rintro rfl
    have hfind' : w'.streams.find? id = some info' := by
      rw [hstreams]
      exact OrdMap.find?_insert_self _ _ _
    have hbooks := h.reached hreaches hdir hended hcredits
    have hgrants : streamGrants [r] = [] := by
      simp only [streamGrants, List.filterMap_cons, hgrant, List.filterMap_nil]
    have hbooks' : Books own other info' (about id said ++ []) (about id heard ++ [r]) := by
      refine hbooks.after hsent ?_ ?_ ?_ ?_ ?_ ?_
      · rw [hsend]
        exact (Bool.or_false _).symm
      · rw [dataBytes_one]
        exact hreceived
      · rw [ended_one]
        exact hrecv
      · rw [hgranted]
        exact .nil _
      · rw [hgrants]
        exact hlimit
      · rw [hstopped]
        exact Or.inl
    refine h.entry hfind' hbooks' ?_ ?_ ?_ hreleased ?_ ?_ ?_
    · rw [hbooks'.sent, hbooks'.limit, List.append_nil, streamGrants_append]
      exact h.within.trans (top_le_append _ _ _)
    · intro hown
      rw [hnext]
      -- The peer speaks about a stream of this side only when it has heard of it.
      have hbegun := hexpected id hr (Or.inl ⟨hdata, hown⟩)
      by_contra hle
      have hsilent := (h.unopened hown (not_lt.1 hle)).2
      rw [hsilent] at hbegun
      exact Bool.false_ne_true hbegun
    · intro _
      have hbegun : begun (Label.received r events).hears = true := (begun_one r).trans hdata
      rw [begun_append, hbegun, Bool.or_true]
    · rw [hstop_sent]
      exact fun hor => hor.resolve_left Bool.false_ne_true
    · rw [hheard]
      exact Or.inl
    · rw [hlimits]
      exact fun limit hfound => Or.inl hfound
  · intro hne
    have hfind' : w'.streams.find? id = w.streams.find? id := by
      rw [hstreams, OrdMap.find?_insert, if_neg hne]
    simp only [WtSessionInfo.aboutStream, hfind', hreleased, hstop_sent, hheard, hlimits]
  · intro r' hr'
    rw [List.mem_singleton.1 hr']
    exact hr

theorem aboutStream_opens (isUni : Bool) (info : WtStreamInfo) (hne : id ≠ streamId) :
    ((w.allocateStreamId isUni).setStream streamId info).aboutStream id = w.aboutStream id := by
  have hfind : ((w.allocateStreamId isUni).setStream streamId info).streams.find? id =
      w.streams.find? id := by
    rw [WtSessionInfo.find?_setStream, if_neg hne]
    cases isUni <;> rfl
  simp only [WtSessionInfo.aboutStream, hfind]
  cases isUni <;> rfl

theorem recordStopSending_mem (hne : id ≠ streamId) :
    (id ∈ (w.recordStopSending streamId).receivedStopSendingStreamIds) =
      (id ∈ w.receivedStopSendingStreamIds) := by
  rw [eq_iff_iff]
  simp only [WtSessionInfo.recordStopSending]
  split_ifs
  · rw [Finset.mem_insert]
    exact or_iff_right hne
  · exact Iff.rfl

theorem recordMaxStreamData_other (w : WtSessionInfo) (limit : Nat) (hne : id ≠ streamId) :
    (w.recordMaxStreamData streamId limit).receivedMaxStreamDataById.find? id =
      w.receivedMaxStreamDataById.find? id := by
  simp only [WtSessionInfo.recordMaxStreamData]
  split_ifs
  · rw [OrdMap.find?_insert, if_neg hne]
  · rfl

theorem recordMaxStreamData_found (w : WtSessionInfo) (limit limit' : Nat)
    (h : (w.recordMaxStreamData id limit).receivedMaxStreamDataById.find? id = some limit') :
    w.receivedMaxStreamDataById.find? id = some limit' ∨
      limit' ∈ streamGrants [.maxStreamData id limit] := by
  simp only [WtSessionInfo.recordMaxStreamData] at h
  split_ifs at h
  · rw [OrdMap.find?_insert_self] at h
    cases h
    exact Or.inr (List.mem_singleton_self _)
  · exact Or.inl h

theorem speaksOf {r : Received} {stream : Option Nat} (h : r.stream? = stream) :
    ∀ r' ∈ [r], r'.stream? = stream := by
  intro r' hr'
  rw [List.mem_singleton.1 hr']
  exact h

/-! ### The sending half -/

/-- Data goes out, with the end of the stream or without it. -/
theorem StreamAccount.sends {info info' : WtStreamInfo} {fin : Bool} {data : Bytes}
    (h : StreamAccount isServer own other w id (about id said) (about id heard))
    (hfind : w.streams.find? streamId = some info)
    (hstreams : w'.streams = w.streams.insert streamId info')
    (hready : info.sendState.sendDone = false) (hdone : info'.sendState.sendDone = fin)
    (hsent : info'.bytesSent = info.bytesSent + data.length)
    (hstream : info'.bytesSent ≤ info'.maxStreamDataLocal)
    (hsame : info'.bytesReceived = info.bytesReceived ∧ info'.recvState = info.recvState ∧
      info'.maxStreamDataRemote = info.maxStreamDataRemote ∧
      info'.maxStreamDataLocal = info.maxStreamDataLocal ∧
      info'.stopSendingReceived = info.stopSendingReceived)
    (hsets : w'.releasedStreamIds = w.releasedStreamIds ∧
      w'.sentStopSendingStreamIds = w.sentStopSendingStreamIds ∧
      w'.receivedStopSendingStreamIds = w.receivedStopSendingStreamIds ∧
      w'.receivedMaxStreamDataById = w.receivedMaxStreamDataById)
    (hnext : ∀ isUni, w'.nextCounter isUni = w.nextCounter isUni) :
    StreamAccount isServer own other w' id
      (about id (said ++ (Label.sent (.wtStream fin streamId data)).tells))
      (about id (heard ++ (Label.sent (.wtStream fin streamId data)).hears)) := by
  rcases hsame with ⟨hreceived, hrecv, hgranted, hlimit, hstopped⟩
  refine h.revalue streamId hfind hstreams ?_ hstream hsets rfl hnext (speaksOf rfl)
  intro S H hbooks
  refine hbooks.after hsent ?_ hreceived ?_ ?_ hlimit ?_
  · rw [hready, hdone]
    cases fin <;> rfl
  · rw [hrecv]
    exact (Bool.or_false _).symm
  · rw [hgranted]
    exact .nil _
  · rw [hstopped]
    exact Or.inl

/-! ### The receiving half -/

/-- This side stops the stream. -/
theorem StreamAccount.stops {info : WtStreamInfo}
    (h : StreamAccount isServer own other w id (about id said) (about id heard))
    (hwf : WtSessionInfo.Wf isServer w) (hfind : w.streams.find? streamId = some info)
    (errorCode : Nat) :
    StreamAccount isServer own other
      { w with sentStopSendingStreamIds := insert streamId w.sentStopSendingStreamIds } id
      (about id (said ++ (Label.sent (.wtStopSending streamId errorCode)).tells))
      (about id (heard ++ (Label.sent (.wtStopSending streamId errorCode)).hears)) := by
  refine h.touch streamId ?_ ?_ (fun _ => le_rfl) (speaksOf rfl)
  · rintro rfl
    have hbooks := h.found info hfind
    refine h.rewrite hfind hfind ?_ ?_ (fun _ => rfl) rfl ?_ Or.inl fun _ => Or.inl
    · exact hbooks.after rfl (Bool.or_false _).symm rfl (Bool.or_false _).symm (.nil _) rfl Or.inl
    · exact (hwf.stream hfind).sent_le
    · exact fun _ => Finset.mem_insert_self _ _
  · intro hne
    have hmem : (id ∈ insert streamId w.sentStopSendingStreamIds) =
        (id ∈ w.sentStopSendingStreamIds) := by
      rw [Finset.mem_insert, eq_iff_iff]
      exact or_iff_right hne
    simp only [WtSessionInfo.aboutStream, hmem]

/-- A stream is over and its entry is removed. -/
theorem StreamAccount.releases {info : WtStreamInfo}
    (h : StreamAccount isServer own other w id (about id said) (about id heard))
    (hwf : WtSessionInfo.Wf isServer w) (hfind : w.streams.find? streamId = some info)
    (hreleasable : WtSessionInfo.releasable info = true) :
    StreamAccount isServer own other (w.dropStream streamId info) id (about id said)
      (about id heard) := by
  by_cases hid : id = streamId
  · subst hid
    exact h.drop hfind (hwf.stream hfind) hreleasable
  · -- Another stream: the record of released ids changes, but not for this id.
    refine h.beside ?_ fun _ => le_rfl
    have hfind' : (w.dropStream streamId info).streams.find? id = w.streams.find? id := by
      change (w.streams.erase streamId).find? id = _
      rw [OrdMap.find?_erase, if_neg hid]
    have hmem : (id ∈ (w.dropStream streamId info).releasedStreamIds) =
        (id ∈ w.releasedStreamIds) := by
      rw [eq_iff_iff]
      simp only [WtSessionInfo.dropStream]
      split_ifs
      · rw [Finset.mem_insert]
        exact or_iff_right hid
      · exact Iff.rfl
    simp only [WtSessionInfo.aboutStream, hfind', hmem]
    rfl

/-! ### Opening streams -/

/-- This side opens a stream, another one or the stream in question. -/
theorem StreamAccount.opensNext
    (h : StreamAccount isServer own other w id (about id said) (about id heard))
    (hcredits : Credits other w) (isUni : Bool) :
    StreamAccount isServer own other
      ((w.allocateStreamId isUni).setStream (w.nextStreamId isServer isUni)
        (w.newStream own (w.nextStreamId isServer isUni) true isUni)) id
      (about id (said ++ Label.internal.tells)) (about id (heard ++ Label.internal.hears)) := by
  refine h.touch (w.nextStreamId isServer isUni) ?_ (aboutStream_opens isUni _) ?_
    fun r hr => absurd hr List.not_mem_nil
  · intro hid
    have hopens := h.opens isUni hid hcredits
    rw [Label.tells_internal, Label.hears_internal, List.append_nil, List.append_nil, ← hid]
    exact hopens
  · intro isUni'
    cases isUni <;> cases isUni' <;> first | exact Nat.le_succ _ | exact le_rfl

/-! ### Received capsules -/

/-- The peer stops a stream that is there. -/
theorem StreamAccount.hearsStop {info : WtStreamInfo}
    (h : StreamAccount isServer own other w id (about id said) (about id heard))
    (hwf : WtSessionInfo.Wf isServer w) (hfind : w.streams.find? streamId = some info)
    (errorCode : Nat) (events : List H2Event) :
    StreamAccount isServer own other
      ((w.recordStopSending streamId).setStream streamId { info with stopSendingReceived := true })
      id (about id (said ++ (Label.received (.stopSending streamId errorCode) events).tells))
      (about id (heard ++ (Label.received (.stopSending streamId errorCode) events).hears)) := by
  refine h.touch streamId ?_ ?_ (fun _ => le_rfl) (speaksOf rfl)
  · rintro rfl
    have hbooks := h.found info hfind
    refine h.rewrite hfind (WtSessionInfo.find?_setStream_self _ _ _) ?_
      (hwf.stream hfind).sent_le (fun _ => rfl) rfl ?_ (fun _ => Or.inr rfl) fun _ => Or.inl
    · exact hbooks.after rfl (Bool.or_false _).symm rfl (Bool.or_false _).symm (.nil _) rfl
        fun _ => Or.inr rfl
    · exact fun hor => hor.resolve_left Bool.false_ne_true
  · intro hne
    have hfind' := WtSessionInfo.find?_setStream (w.recordStopSending streamId) streamId id
      { info with stopSendingReceived := true }
    rw [if_neg hne] at hfind'
    simp only [WtSessionInfo.aboutStream, hfind',
      WtSessionInfo.setStream_receivedStopSendingStreamIds, recordStopSending_mem hne]
    rfl

/-- The peer stops a stream that is not there. -/
theorem StreamAccount.hearsStopUnknown
    (h : StreamAccount isServer own other w id (about id said) (about id heard))
    (hfind : w.streams.find? streamId = none) (errorCode : Nat) (events : List H2Event) :
    StreamAccount isServer own other (w.recordStopSending streamId) id
      (about id (said ++ (Label.received (.stopSending streamId errorCode) events).tells))
      (about id (heard ++ (Label.received (.stopSending streamId errorCode) events).hears)) := by
  refine h.touch streamId ?_ ?_ (fun _ => le_rfl) (speaksOf rfl)
  · rintro rfl
    rw [Label.tells_received, List.append_nil]
    exact h.hear_absent hfind hfind rfl (fun hgrant => absurd rfl hgrant) (fun _ => rfl) rfl rfl
      (fun _ => Or.inr rfl) fun _ => Or.inl
  · intro hne
    simp only [WtSessionInfo.aboutStream, recordStopSending_mem hne]
    rfl

/-- The peer gives a limit for a stream that is there. -/
theorem StreamAccount.hearsLimit {info : WtStreamInfo}
    (h : StreamAccount isServer own other w id (about id said) (about id heard))
    (hwf : WtSessionInfo.Wf isServer w) (hfind : w.streams.find? streamId = some info)
    (limit : Nat) :
    StreamAccount isServer own other
      (if limit > info.maxStreamDataLocal then
        (w.recordMaxStreamData streamId limit).raiseMaxStreamData streamId info limit
      else w.recordMaxStreamData streamId limit) id
      (about id (said ++ (Label.received (.maxStreamData streamId limit) []).tells))
      (about id (heard ++ (Label.received (.maxStreamData streamId limit) []).hears)) := by
  have hsent_le := (hwf.stream hfind).sent_le
  refine h.touch streamId ?_ ?_ ?_ (speaksOf rfl)
  · rintro rfl
    have hbooks := h.found info hfind
    -- A smaller value than the limit in force is recorded, and no more.
    split_ifs with hmore
    · refine h.rewrite hfind (WtSessionInfo.find?_setStream_self _ _ _) ?_
        (hsent_le.trans hmore.le) (fun _ => rfl) rfl ?_ Or.inl
        (recordMaxStreamData_found w limit)
      · exact hbooks.after rfl (Bool.or_false _).symm rfl (Bool.or_false _).symm (.nil _)
          (max_eq_right hmore.le).symm Or.inl
      · exact fun hor => hor.resolve_left Bool.false_ne_true
    · refine h.rewrite hfind hfind ?_ hsent_le (fun _ => rfl) rfl ?_ Or.inl
        (recordMaxStreamData_found w limit)
      · exact hbooks.after rfl (Bool.or_false _).symm rfl (Bool.or_false _).symm (.nil _)
          (max_eq_left (not_lt.1 hmore)).symm Or.inl
      · exact fun hor => hor.resolve_left Bool.false_ne_true
  · intro hne
    have hother := recordMaxStreamData_other w limit hne
    split_ifs
    · have hfind' := WtSessionInfo.find?_setStream (w.recordMaxStreamData streamId limit) streamId
        id { info with maxStreamDataLocal := limit, streamDataBlockedSent := false }
      rw [if_neg hne] at hfind'
      simp only [WtSessionInfo.aboutStream, WtSessionInfo.raiseMaxStreamData, hfind',
        WtSessionInfo.setStream_receivedMaxStreamDataById, hother]
      rfl
    · simp only [WtSessionInfo.aboutStream, hother]
      rfl
  · intro isUni
    split_ifs <;> exact le_rfl

/-- The peer gives a limit for a stream that is not there; this side has begun it. -/
theorem StreamAccount.hearsLimitUnknown {limit : Nat}
    (h : StreamAccount isServer own other w id (about id said) (about id heard))
    (hfind : w.streams.find? streamId = none)
    (hexpected : Expected isServer said (.maxStreamData streamId limit)) :
    StreamAccount isServer own other (w.recordMaxStreamData streamId limit) id
      (about id (said ++ (Label.received (.maxStreamData streamId limit) []).tells))
      (about id (heard ++ (Label.received (.maxStreamData streamId limit) []).hears)) := by
  have hbegun := hexpected streamId rfl (Or.inr (Option.some_ne_none limit))
  refine h.touch streamId ?_ ?_ (fun _ => le_rfl) (speaksOf rfl)
  · rintro rfl
    rw [Label.tells_received, List.append_nil]
    refine h.hear_absent hfind hfind rfl ?_ (fun _ => rfl) rfl rfl Or.inl
      (recordMaxStreamData_found w limit)
    -- A grant for a stream that this side has said nothing on would not be expected.
    intro _ hsilent
    rw [hsilent] at hbegun
    exact Bool.false_ne_true hbegun
  · intro hne
    simp only [WtSessionInfo.aboutStream, recordMaxStreamData_other w limit hne]
    rfl

/-- The peer says that it is blocked on a stream. -/
theorem StreamAccount.hearsBlocked
    (h : StreamAccount isServer own other w id (about id said) (about id heard))
    (hwf : WtSessionInfo.Wf isServer w) (events : List H2Event) :
    StreamAccount isServer own other w id
      (about id (said ++ (Label.received (.streamDataBlocked streamId) events).tells))
      (about id (heard ++ (Label.received (.streamDataBlocked streamId) events).hears)) := by
  refine h.touch streamId ?_ (fun _ => rfl) (fun _ => le_rfl) (speaksOf rfl)
  rintro rfl
  cases hfind : w.streams.find? id with
  | none =>
      rw [Label.tells_received, List.append_nil]
      exact h.hear_absent hfind hfind rfl (fun hgrant => absurd rfl hgrant) (fun _ => rfl) rfl rfl
        Or.inl fun _ => Or.inl
  | some info =>
      have hbooks := h.found info hfind
      refine h.rewrite hfind hfind ?_ (hwf.stream hfind).sent_le (fun _ => rfl) rfl ?_ Or.inl
        fun _ => Or.inl
      · exact hbooks.after rfl (Bool.or_false _).symm rfl (Bool.or_false _).symm (.nil _) rfl Or.inl
      · exact fun hor => hor.resolve_left Bool.false_ne_true

/-- A capsule that leaves the entry of the session as it is. -/
theorem StreamAccount.hearsNothing {r : Received}
    (h : StreamAccount isServer own other w id (about id said) (about id heard))
    (hwf : WtSessionInfo.Wf isServer w) (hnothing : w.Unaffected r)
    (hr : Next (!isServer) other heard r) (events : List H2Event) :
    StreamAccount isServer own other w id (about id (said ++ (Label.received r events).tells))
      (about id (heard ++ (Label.received r events).hears)) := by
  cases r with
  | stream fin streamId data =>
      rcases hnothing with ⟨-, hnone, hreleased⟩
      -- Behind the end of a stream the peer says nothing more on it.
      refine h.touch streamId ?_ (fun _ => rfl) (fun _ => le_rfl) (speaksOf rfl)
      rintro rfl
      have hdir : isReceivableDataCapsule id isServer = true :=
        (isReceivableFlowCapsule_not id isServer).symm.trans hr.1
      have hended := (h.released hreleased).recv hdir
      rw [hr.2] at hended
      exact absurd hended Bool.false_ne_true
  | streamDataBlocked streamId => exact h.hearsBlocked hwf events
  | resetStream streamId errorCode reliableSize => cases hnothing
  | stopSending streamId errorCode => cases hnothing
  | maxStreamData streamId limit => cases hnothing
  | _ => exact h.aside rfl (fun _ => rfl) (speaksOf rfl)

/-! ### Every change -/

/-- Every change keeps the account of a stream. -/
theorem StreamAccount.change
    (h : StreamAccount isServer own other w id (about id said) (about id heard))
    (htrans : WtSessionInfo.Trans permits own isServer w l w') (hwf : WtSessionInfo.Wf isServer w)
    (hcredits : Credits other w) (hnext : ∀ r ∈ l.hears, Next (!isServer) other heard r)
    (hexpected : ∀ r ∈ l.hears, Expected isServer said r) :
    StreamAccount isServer own other w' id (about id (said ++ l.tells))
      (about id (heard ++ l.hears)) := by
  -- The books of the stream in question change with the labels about it; a change to another stream
  -- leaves both its books and its entry alone.
  cases htrans with
  | enqueue data fin hfind hsendable hready hfin =>
      refine h.revalue _ hfind rfl ?_ (hwf.stream hfind).sent_le ⟨rfl, rfl, rfl, rfl⟩ rfl
        (fun _ => rfl) (fun r hr => absurd hr List.not_mem_nil)
      intro S H hbooks
      exact hbooks.after rfl (Bool.or_false _).symm rfl (Bool.or_false _).symm (.nil _) rfl Or.inl
  | @sendPart streamId info front rest size hfind hready hpending hsize hsession hstream =>
      have hlength : (front.data.take size).length = size := by
        rw [List.length_take, Nat.min_eq_left hsize.le]
      exact h.sends hfind rfl hready hready (congrArg (info.bytesSent + ·) hlength.symm) hstream
        ⟨rfl, rfl, rfl, rfl, rfl⟩ ⟨rfl, rfl, rfl, rfl⟩ fun _ => rfl
  | @sendFront streamId info front rest hfind hready hpending hsession hstream =>
      refine h.sends hfind rfl hready ?_ rfl hstream ⟨rfl, rfl, rfl, rfl, rfl⟩
        ⟨rfl, rfl, rfl, rfl⟩ fun _ => rfl
      cases hfin : front.fin with
      | true => rfl
      | false => exact hready
  | clearPending hfind hdone =>
      refine h.revalue _ hfind rfl ?_ (hwf.stream hfind).sent_le ⟨rfl, rfl, rfl, rfl⟩ rfl
        (fun _ => rfl) (fun r hr => absurd hr List.not_mem_nil)
      intro S H hbooks
      exact hbooks.after rfl (Bool.or_false _).symm rfl (Bool.or_false _).symm (.nil _) rfl Or.inl
  | @streamDataBlocked streamId info hfind hready hpending hexhausted =>
      refine h.revalue streamId hfind rfl ?_ (hwf.stream hfind).sent_le
        ⟨rfl, rfl, rfl, rfl⟩ rfl (fun _ => rfl) (speaksOf rfl)
      intro S H hbooks
      exact hbooks.after rfl (Bool.or_false _).symm rfl (Bool.or_false _).symm (.nil _) rfl Or.inl
  | @reset streamId info errorCode hpermit hfind hready =>
      refine h.revalue streamId hfind rfl ?_ (hwf.stream hfind).sent_le
        ⟨rfl, rfl, rfl, rfl⟩ rfl (fun _ => rfl) (speaksOf rfl)
      intro S H hbooks
      exact hbooks.after rfl (Bool.or_true _).symm rfl (Bool.or_false _).symm (.nil _) rfl Or.inl
  | stop errorCode hpermit hfind hfirst => exact h.stops hwf hfind errorCode
  | release hfind hreleasable =>
      rw [Label.tells_internal, Label.hears_internal, List.append_nil, List.append_nil]
      exact h.releases hwf hfind hreleasable
  | grantData hrise hle => exact h.aside rfl (fun _ => rfl) (speaksOf rfl)
  | @grantStreamData streamId info limit hfind hreceivable hstop hrise hle =>
      refine h.revalue streamId hfind rfl ?_ (hwf.stream hfind).sent_le
        ⟨rfl, rfl, rfl, rfl⟩ rfl (fun _ => rfl) (speaksOf rfl)
      intro S H hbooks
      exact hbooks.after rfl (Bool.or_false _).symm rfl (Bool.or_false _).symm (.one hrise.le) rfl
        Or.inl
  | openBidi hcreate hopened hnone => exact h.opensNext hcredits false
  | openUni hcreate hopened hnone => exact h.opensNext hcredits true
  | @recvStream streamId info fin data hreceivable hreaches hstate hlate hsession hstream =>
      -- The entry may be there or be made by this very capsule: `h.data` has both.
      have hr := hnext _ (List.mem_singleton_self _)
      refine h.data hcredits hreceivable hreaches rfl rfl rfl hr.2
        (hexpected _ (List.mem_singleton_self _)) ?_ ?_ ?_ ?_ ?_ ?_ ?_ rfl ⟨rfl, rfl, rfl, rfl⟩
        (fun _ => rfl)
      all_goals try rfl
      cases fin
      · exact (Bool.or_false _).symm
      · exact (Bool.or_true _).symm
  | @recvReset streamId info errorCode hreceivable hreaches hstate =>
      have hr := hnext _ (List.mem_singleton_self _)
      refine h.data hcredits hreceivable hreaches rfl rfl rfl hr.2.1
        (hexpected _ (List.mem_singleton_self _)) ?_ ?_ ?_ ?_ ?_ ?_ ?_ rfl ⟨rfl, rfl, rfl, rfl⟩
        (fun _ => rfl)
      all_goals try rfl
      exact (Bool.or_true _).symm
  | recvStop hreceivable hfirst hfind => exact h.hearsStop hwf hfind _ _
  | recvStopUnknown hreceivable hfirst hfind => exact h.hearsStopUnknown hfind _ _
  | recvMaxStreamData hreceivable hstop hrise hfind => exact h.hearsLimit hwf hfind _
  | recvMaxStreamDataUnknown hreceivable hstop hrise hfind =>
      exact h.hearsLimitUnknown hfind (hexpected _ (List.mem_singleton_self _))
  | recvMaxData | recvMaxStreamsBidi | recvMaxStreamsUni =>
      -- A limit of the session: no stream is touched, whether the value is news or not.
      refine h.aside ?_ ?_ (speaksOf rfl)
      · split_ifs <;> rfl
      · intro isUni
        split_ifs <;> rfl
  | recvNothing hnothing =>
      exact h.hearsNothing hwf hnothing (hnext _ (List.mem_singleton_self _)) _
  | _ => exact h.aside rfl (fun _ => rfl) (speaksOf rfl)

end Change

/-! ## The session -/

namespace WtSessionInfo

/-- `received_max_streams_uni` or `received_max_streams_bidi` -/
def receivedMaxStreams (isUni : Bool) (w : WtSessionInfo) : Option Nat :=
  if isUni then w.receivedMaxStreamsUni else w.receivedMaxStreamsBidi

end WtSessionInfo

/-- The streams of one direction, opened here and by the peer. -/
structure CountAccount (own other : H2SessionConfig) (isUni : Bool) (w : WtSessionInfo)
    (said heard : List Received) : Prop where
  granted : Ascends (own.wtInitialMaxStreams isUni) (countGrants isUni said)
    (w.maxStreamsRemote isUni)
  granted_le : w.maxStreamsRemote isUni ≤ kMaxStreamsLimit
  limit : w.maxStreamsLocal isUni = top (other.wtInitialMaxStreams isUni) (countGrants isUni heard)
  limit_le : w.maxStreamsLocal isUni ≤ kMaxStreamsLimit
  limit_heard : ∀ limit, w.receivedMaxStreams isUni = some limit → limit ≤ w.maxStreamsLocal isUni
  opened : w.streamsOpened isUni = w.nextCounter isUni
  opened_le : w.nextCounter isUni ≤ w.maxStreamsLocal isUni

/-- The entry of a session at an endpoint that has said `said` and heard `heard`. -/
structure Account (isServer : Bool) (own other : H2SessionConfig) (w : WtSessionInfo)
    (said heard : List Received) : Prop where
  lawful : Lawful isServer own said
  credits : Credits other w
  stream : ∀ id, StreamAccount isServer own other w id (about id said) (about id heard)
  sent : w.bytesSent = dataBytes said
  received : w.bytesReceived = dataBytes heard
  data_granted : Ascends own.wtInitialMaxData (dataGrants said) w.maxDataRemote
  data_limit : w.maxDataLocal = top other.wtInitialMaxData (dataGrants heard)
  data_heard : ∀ limit, w.receivedMaxData = some limit → limit ≤ w.maxDataLocal
  count : ∀ isUni, CountAccount own other isUni w said heard

/-- How the counters of one direction move with a change. -/
structure CountMoved (isUni : Bool) (w : WtSessionInfo) (l : Label) (w' : WtSessionInfo) :
    Prop where
  granted : Ascends (w.maxStreamsRemote isUni) (countGrants isUni l.tells)
    (w'.maxStreamsRemote isUni)
  granted_le : w.maxStreamsRemote isUni ≤ kMaxStreamsLimit →
    w'.maxStreamsRemote isUni ≤ kMaxStreamsLimit
  limit : w'.maxStreamsLocal isUni = top (w.maxStreamsLocal isUni) (countGrants isUni l.hears)
  limit_le : w.maxStreamsLocal isUni ≤ kMaxStreamsLimit →
    w'.maxStreamsLocal isUni ≤ kMaxStreamsLimit
  limit_heard : ∀ limit, w'.receivedMaxStreams isUni = some limit →
    w.receivedMaxStreams isUni = some limit ∨ limit ≤ w'.maxStreamsLocal isUni
  opened : w.streamsOpened isUni = w.nextCounter isUni →
    w'.streamsOpened isUni = w'.nextCounter isUni
  opened_le : w.streamsOpened isUni = w.nextCounter isUni →
    w.nextCounter isUni ≤ w.maxStreamsLocal isUni → w'.nextCounter isUni ≤ w'.maxStreamsLocal isUni

/-- How the counters of the session move with a change. -/
structure Moved (w : WtSessionInfo) (l : Label) (w' : WtSessionInfo) : Prop where
  sent : w'.bytesSent = w.bytesSent + dataBytes l.tells
  received : w'.bytesReceived = w.bytesReceived + dataBytes l.hears
  data_granted : Ascends w.maxDataRemote (dataGrants l.tells) w'.maxDataRemote
  data_limit : w'.maxDataLocal = top w.maxDataLocal (dataGrants l.hears)
  data_heard : ∀ limit, w'.receivedMaxData = some limit →
    w.receivedMaxData = some limit ∨ limit ≤ w'.maxDataLocal
  credits : ∀ {other}, Credits other w → Credits other w'
  count : ∀ isUni, CountMoved isUni w l w'

section Session

variable {permits : Permits} {isServer : Bool} {own other : H2SessionConfig}
  {w w' : WtSessionInfo} {l : Label} {said heard : List Received}

/-- The fields of the entry that count streams of one direction. -/
def WtSessionInfo.counters (isUni : Bool) (w : WtSessionInfo) :
    Nat × Nat × Option Nat × Nat × Nat :=
  (w.maxStreamsRemote isUni, w.maxStreamsLocal isUni, w.receivedMaxStreams isUni,
    w.streamsOpened isUni, w.nextCounter isUni)

/-- A change beside the counters. -/
theorem CountMoved.still {isUni : Bool} (hsame : w'.counters isUni = w.counters isUni)
    (htells : countGrants isUni l.tells = []) (hhears : countGrants isUni l.hears = []) :
    CountMoved isUni w l w' := by
  have hremote : w'.maxStreamsRemote isUni = w.maxStreamsRemote isUni := congrArg Prod.fst hsame
  have hlocal : w'.maxStreamsLocal isUni = w.maxStreamsLocal isUni :=
    congrArg (fun v => v.2.1) hsame
  have hheard : w'.receivedMaxStreams isUni = w.receivedMaxStreams isUni :=
    congrArg (fun v => v.2.2.1) hsame
  have hopened : w'.streamsOpened isUni = w.streamsOpened isUni :=
    congrArg (fun v => v.2.2.2.1) hsame
  have hnext : w'.nextCounter isUni = w.nextCounter isUni := congrArg (fun v => v.2.2.2.2) hsame
  refine ⟨?_, ?_, ?_, ?_, ?_, ?_, ?_⟩
  · rw [htells, hremote]
    exact .nil _
  · rw [hremote]
    exact id
  · rw [hhears, hlocal]
    rfl
  · rw [hlocal]
    exact id
  · rw [hheard]
    exact fun limit h => Or.inl h
  · rw [hopened, hnext]
    exact id
  · rw [hnext, hlocal]
    exact fun _ h => h

/-- Every change moves the counters as the capsules say. -/
theorem WtSessionInfo.Trans.moved (h : Trans permits own isServer w l w') : Moved w l w' := by
  have hnothing : ∀ {w₁ w₂ : WtSessionInfo} {l₁ : Label},
      (∀ isUni, w₂.counters isUni = w₁.counters isUni) →
      (∀ isUni, countGrants isUni l₁.tells = []) → (∀ isUni, countGrants isUni l₁.hears = []) →
      ∀ isUni, CountMoved isUni w₁ l₁ w₂ :=
    fun hsame htells hhears isUni => .still (hsame isUni) (htells isUni) (hhears isUni)
  cases h with
  | sendPart hfind hready hpending hsize hsession hstream =>
      refine ⟨?_, rfl, .nil _, rfl, fun _ => Or.inl, fun h => ⟨h.1, h.2⟩,
        hnothing (fun _ => rfl) (fun _ => rfl) fun _ => rfl⟩
      simp only [Label.tells, Capsule.received, dataBytes_one, size, List.length_take,
        Nat.min_eq_left hsize.le]
      rfl
  | grantData hrise hle =>
      exact ⟨rfl, rfl, .one hrise.le, rfl, fun _ => Or.inl, fun h => ⟨h.1, h.2⟩,
        hnothing (fun _ => rfl) (fun _ => rfl) fun _ => rfl⟩
  | grantStreamsBidi hlt =>
      refine ⟨rfl, rfl, .nil _, rfl, fun _ => Or.inl, fun h => ⟨h.1, h.2⟩, ?_⟩
      intro isUni
      cases isUni with
      | true => exact .still rfl rfl rfl
      | false =>
          exact ⟨.one (Nat.le_succ _), fun _ => hlt, rfl, id, fun _ => Or.inl, id, fun _ h => h⟩
  | grantStreamsUni hlt =>
      refine ⟨rfl, rfl, .nil _, rfl, fun _ => Or.inl, fun h => ⟨h.1, h.2⟩, ?_⟩
      intro isUni
      cases isUni with
      | false => exact .still rfl rfl rfl
      | true =>
          exact ⟨.one (Nat.le_succ _), fun _ => hlt, rfl, id, fun _ => Or.inl, id, fun _ h => h⟩
  | openBidi hcreate hopened hnone =>
      refine ⟨rfl, rfl, .nil _, rfl, fun _ => Or.inl, fun h => ⟨h.1, h.2⟩, ?_⟩
      intro isUni
      cases isUni with
      | true => exact .still rfl rfl rfl
      | false =>
          refine ⟨.nil _, id, rfl, id, fun _ => Or.inl, congrArg Nat.succ, ?_⟩
          intro heq _
          have hcounter : w.streamsBidiOpened = w.nextBidiStreamId := heq
          rw [hcounter] at hopened
          exact hopened
  | openUni hcreate hopened hnone =>
      refine ⟨rfl, rfl, .nil _, rfl, fun _ => Or.inl, fun h => ⟨h.1, h.2⟩, ?_⟩
      intro isUni
      cases isUni with
      | false => exact .still rfl rfl rfl
      | true =>
          refine ⟨.nil _, id, rfl, id, fun _ => Or.inl, congrArg Nat.succ, ?_⟩
          intro heq _
          have hcounter : w.streamsUniOpened = w.nextUniStreamId := heq
          rw [hcounter] at hopened
          exact hopened
  | @recvMaxData limit hrise =>
      split_ifs with hmore
      · exact ⟨rfl, rfl, .nil _, (max_eq_right hmore.le).symm,
          fun _ heq => Or.inr (Option.some.inj heq).ge, fun h => ⟨h.1, h.2⟩,
          hnothing (fun _ => rfl) (fun _ => rfl) fun _ => rfl⟩
      · exact ⟨rfl, rfl, .nil _, (max_eq_left (not_lt.1 hmore)).symm,
          fun _ heq => Or.inr ((Option.some.inj heq).ge.trans (not_lt.1 hmore)),
          fun h => ⟨h.1, h.2⟩, hnothing (fun _ => rfl) (fun _ => rfl) fun _ => rfl⟩
  | recvMaxStreamData hreceivable hstop hrise hfind =>
      split_ifs
      · exact ⟨rfl, rfl, .nil _, rfl, fun _ => Or.inl, fun h => ⟨h.1, h.2⟩,
          hnothing (fun _ => rfl) (fun _ => rfl) fun _ => rfl⟩
      · exact ⟨rfl, rfl, .nil _, rfl, fun _ => Or.inl, fun h => ⟨h.1, h.2⟩,
          hnothing (fun _ => rfl) (fun _ => rfl) fun _ => rfl⟩
  | @recvMaxStreamsBidi limit hle hrise =>
      split_ifs with hmore
      · refine ⟨rfl, rfl, .nil _, rfl, fun _ => Or.inl, fun h => ⟨h.1, h.2⟩, ?_⟩
        intro isUni
        cases isUni with
        | true => exact .still rfl rfl rfl
        | false =>
            exact ⟨.nil _, id, (max_eq_right hmore.le).symm, fun _ => hle,
              fun _ heq => Or.inr (Option.some.inj heq).ge, id, fun _ h => h.trans hmore.le⟩
      · refine ⟨rfl, rfl, .nil _, rfl, fun _ => Or.inl, fun h => ⟨h.1, h.2⟩, ?_⟩
        intro isUni
        cases isUni with
        | true => exact .still rfl rfl rfl
        | false =>
            exact ⟨.nil _, id, (max_eq_left (not_lt.1 hmore)).symm, id,
              fun _ heq => Or.inr ((Option.some.inj heq).ge.trans (not_lt.1 hmore)), id,
              fun _ h => h⟩
  | @recvMaxStreamsUni limit hle hrise =>
      split_ifs with hmore
      · refine ⟨rfl, rfl, .nil _, rfl, fun _ => Or.inl, fun h => ⟨h.1, h.2⟩, ?_⟩
        intro isUni
        cases isUni with
        | false => exact .still rfl rfl rfl
        | true =>
            exact ⟨.nil _, id, (max_eq_right hmore.le).symm, fun _ => hle,
              fun _ heq => Or.inr (Option.some.inj heq).ge, id, fun _ h => h.trans hmore.le⟩
      · refine ⟨rfl, rfl, .nil _, rfl, fun _ => Or.inl, fun h => ⟨h.1, h.2⟩, ?_⟩
        intro isUni
        cases isUni with
        | false => exact .still rfl rfl rfl
        | true =>
            exact ⟨.nil _, id, (max_eq_left (not_lt.1 hmore)).symm, id,
              fun _ heq => Or.inr ((Option.some.inj heq).ge.trans (not_lt.1 hmore)), id,
              fun _ h => h⟩
  | @recvNothing r hnothing' =>
      cases r with
      | stream fin streamId data =>
          have hdata : data = [] := hnothing'.1
          subst hdata
          exact ⟨rfl, rfl, .nil _, rfl, fun _ => Or.inl, id,
            hnothing (fun _ => rfl) (fun _ => rfl) fun _ => rfl⟩
      | maxData limit => cases hnothing'
      | maxStreams isBidi limit => cases hnothing'
      | _ =>
          exact ⟨rfl, rfl, .nil _, rfl, fun _ => Or.inl, id,
            hnothing (fun _ => rfl) (fun _ => rfl) fun _ => rfl⟩
  | _ =>
      exact ⟨rfl, rfl, .nil _, rfl, fun _ => Or.inl, fun h => ⟨h.1, h.2⟩,
        hnothing (fun _ => rfl) (fun _ => rfl) fun _ => rfl⟩

theorem CountAccount.change {isUni : Bool} (h : CountAccount own other isUni w said heard)
    (hmoved : CountMoved isUni w l w') :
    CountAccount own other isUni w' (said ++ l.tells) (heard ++ l.hears) := by
  have hmono : w.maxStreamsLocal isUni ≤ w'.maxStreamsLocal isUni := by
    rw [hmoved.limit]
    exact le_top _ _
  refine ⟨?_, hmoved.granted_le h.granted_le, ?_, hmoved.limit_le h.limit_le, ?_,
    hmoved.opened h.opened, hmoved.opened_le h.opened h.opened_le⟩
  · rw [countGrants_append]
    exact h.granted.append hmoved.granted
  · rw [countGrants_append, top_append, ← h.limit]
    exact hmoved.limit
  · intro limit hlimit
    rcases hmoved.limit_heard limit hlimit with hold | hnew
    · exact (h.limit_heard limit hold).trans hmono
    · exact hnew

/-- The direction of a stream that this side sends on. -/
theorem sends_of_sendable {streamId : Nat} {info : WtStreamInfo}
    (h : WtSessionInfo.WfStream isServer streamId info)
    (hsendable : isSendableStream info.isLocal info.isUnidirectional = true) :
    isReceivableFlowCapsule streamId isServer = true := by
  rw [← isReceivableDataCapsule_not, ← h.sendable_eq]
  exact hsendable

/-- What a change tells the peer may follow what was told before. -/
theorem Account.next (h : Account isServer own other w said heard)
    (htrans : WtSessionInfo.Trans permits own isServer w l w') (hwf : WtSessionInfo.Wf isServer w)
    (hdir : permits.Directed isServer) : ∀ r ∈ l.tells, Next isServer own said r := by
  intro r hr
  have hopen : ∀ {streamId : Nat} {info : WtStreamInfo}, w.streams.find? streamId = some info →
      info.sendState.sendDone = false → ended (about streamId said) = false := by
    intro streamId info hfind hready
    rw [← ((h.stream streamId).found info hfind).send_done]
    exact hready
  have hsends : ∀ {streamId : Nat} {info : WtStreamInfo}, w.streams.find? streamId = some info →
      info.pendingSends ≠ [] → isReceivableFlowCapsule streamId isServer = true := by
    intro streamId info hfind hpending
    have hinfo := hwf.stream hfind
    exact sends_of_sendable hinfo (hinfo.pending_sendable hpending)
  have hnotStopped : ∀ {streamId : Nat}, streamId ∉ w.sentStopSendingStreamIds →
      Received.stopped (about streamId said) = false := by
    intro streamId hmem
    by_contra hstopped
    exact hmem ((h.stream streamId).stop_sent (Bool.eq_true_of_not_eq_false hstopped))
  cases htrans with
  | @sendPart streamId info front rest size hfind hready hpending hsize hsession hstream =>
      cases List.mem_singleton.1 hr
      have hne : info.pendingSends ≠ [] := by
        rw [hpending]
        exact List.cons_ne_nil _ _
      exact ⟨hsends hfind hne, hopen hfind hready⟩
  | @sendFront streamId info front rest hfind hready hpending hsession hstream =>
      cases List.mem_singleton.1 hr
      have hne : info.pendingSends ≠ [] := by
        rw [hpending]
        exact List.cons_ne_nil _ _
      exact ⟨hsends hfind hne, hopen hfind hready⟩
  | streamDataBlocked hfind hready hpending hexhausted =>
      cases List.mem_singleton.1 hr
      exact ⟨hsends hfind hpending, hopen hfind hready⟩
  | @reset streamId info errorCode hpermit hfind hready =>
      cases List.mem_singleton.1 hr
      have hflow : isReceivableFlowCapsule streamId isServer = true := by
        rw [← isReceivableDataCapsule_not]
        exact hdir.reset streamId hpermit
      exact ⟨hflow, hopen hfind hready, ((h.stream streamId).found info hfind).sent⟩
  | @stop streamId info errorCode hpermit hfind hfirst =>
      cases List.mem_singleton.1 hr
      have hdata : isReceivableDataCapsule streamId isServer = true := by
        rw [← isReceivableFlowCapsule_not]
        exact hdir.stop streamId hpermit
      exact ⟨hdata, hnotStopped hfirst⟩
  | grantData hrise hle =>
      cases List.mem_singleton.1 hr
      exact (top_of_ascends h.data_granted).trans_le hrise.le
  | @grantStreamData streamId info limit hfind hreceivable hstop hrise hle =>
      cases List.mem_singleton.1 hr
      have hgranted := ((h.stream streamId).found info hfind).granted
      exact ⟨hreceivable, hnotStopped hstop, (top_of_ascends hgranted).trans_le hrise.le⟩
  | grantStreamsBidi hlt =>
      cases List.mem_singleton.1 hr
      exact ⟨hlt, (top_of_ascends (h.count false).granted).trans_le (Nat.le_succ _)⟩
  | grantStreamsUni hlt =>
      cases List.mem_singleton.1 hr
      exact ⟨hlt, (top_of_ascends (h.count true).granted).trans_le (Nat.le_succ _)⟩
  | streamsBlockedBidi =>
      cases List.mem_singleton.1 hr
      exact (h.count false).limit_le
  | streamsBlockedUni =>
      cases List.mem_singleton.1 hr
      exact (h.count true).limit_le
  | dataBlocked =>
      cases List.mem_singleton.1 hr
      trivial
  | sendDatagram data =>
      cases List.mem_singleton.1 hr
      trivial
  | sendDrain =>
      cases List.mem_singleton.1 hr
      trivial
  | _ => exact absurd hr List.not_mem_nil

/-- Every change keeps the account, as long as the peer says what may follow. -/
theorem Account.change (h : Account isServer own other w said heard)
    (htrans : WtSessionInfo.Trans permits own isServer w l w') (hwf : WtSessionInfo.Wf isServer w)
    (hdir : permits.Directed isServer) (hnext : ∀ r ∈ l.hears, Next (!isServer) other heard r)
    (hexpected : ∀ r ∈ l.hears, Expected isServer said r) :
    Account isServer own other w' (said ++ l.tells) (heard ++ l.hears) := by
  have hmoved := htrans.moved
  have hlimit : w.maxDataLocal ≤ w'.maxDataLocal := by
    rw [hmoved.data_limit]
    exact le_top _ _
  refine ⟨?_, hmoved.credits h.credits, ?_, ?_, ?_, ?_, ?_, ?_, ?_⟩
  · have htold := h.next htrans hwf hdir
    cases l with
    | sent c => exact h.lawful.concat (htold c.received (List.mem_singleton_self _))
    | _ =>
        rw [← List.append_nil said] at h
        exact h.lawful
  · exact fun id => (h.stream id).change htrans hwf h.credits hnext hexpected
  · rw [dataBytes_append, ← h.sent]
    exact hmoved.sent
  · rw [dataBytes_append, ← h.received]
    exact hmoved.received
  · rw [dataGrants_append]
    exact h.data_granted.append hmoved.data_granted
  · rw [dataGrants_append, top_append, ← h.data_limit]
    exact hmoved.data_limit
  · intro limit hheard
    rcases hmoved.data_heard limit hheard with hold | hnew
    · exact (h.data_heard limit hold).trans hlimit
    · exact hnew
  · exact fun isUni => (h.count isUni).change (hmoved.count isUni)

end Session

end H2
end WebTransport
