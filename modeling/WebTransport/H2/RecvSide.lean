import WebTransport.H2.Runs

/-!
# H2.RecvSide — the receiving half of a stream

What the application sees of the data side of one stream id: `StreamData` events, then one end event
(a FIN or a reset), then nothing.  `RecvHalf` is that machine on its own:

* `RecvHalf.Step`   : what can happen to the receiving half, with the events and the data it brings;
* `Trans.half_step` : every change of a session entry is such a step for every stream id;
* `recv_event_grammar` : the grammar along every run of a session.

The machine leaves out one thing the code does: an empty WT_STREAM_FIN for an entry whose receiving
half has ended is not checked by `handle_wt_stream` and ends the half a second time.
-/

namespace WebTransport
namespace H2

open Bindings

/-! ## The machine -/

/-- The receiving half of a stream. -/
inductive RecvHalf
  | unknown
  | receiving
  | finished
  | reset
  | released
  deriving DecidableEq

/-- The events a receiving half pushes for its stream id. -/
def H2Event.isRecvEvent (streamId : Nat) (e : H2Event) : Bool :=
  e.streamId = streamId && (e.type = .streamData || e.type = .streamReset)

/-- A `StreamData` event without FIN. -/
def H2Event.isPlainData (e : H2Event) : Bool := e.type = .streamData && !e.fin

/-- A `StreamData` event with FIN or a `StreamReset`. -/
def H2Event.isEnd (e : H2Event) : Bool := (e.type = .streamData && e.fin) || e.type = .streamReset

/-- Plain data events, then at most one end event, then nothing. -/
def recvGrammar : List H2Event → Bool
  | [] => true
  | e :: rest => if e.isPlainData then recvGrammar rest else e.isEnd && rest.isEmpty

theorem WtSessionInfo.mem_streamEvents {fin : Bool} {streamId : Nat} {data : Bytes} {e : H2Event}
    (h : e ∈ streamEvents fin streamId data) :
    e = { type := .streamData, streamId := streamId, data := data, fin := fin } := by
  unfold streamEvents at h
  by_cases hshown : data.length > 0 ∨ fin = true
  · rw [if_pos hshown] at h
    exact List.mem_singleton.1 h
  · rw [if_neg hshown] at h
    exact absurd h List.not_mem_nil

namespace RecvHalf

/-- The half has not ended. -/
def isOpen : RecvHalf → Bool
  | .unknown => true
  | .receiving => true
  | _ => false

/-- One step of the half: the events it pushes and the data it takes in. -/
inductive Step (streamId : Nat) : RecvHalf → List H2Event × Bytes → RecvHalf → Prop
  | stay (half : RecvHalf) : Step streamId half ([], []) half
  | create : Step streamId .unknown ([], []) .receiving
  /-- The entry of a stream only this side sends on goes without a record. -/
  | forget : Step streamId .receiving ([], []) .unknown
  | release {half : RecvHalf} : Step streamId half ([], []) .released
  | data {half : RecvHalf} (hopen : half.isOpen = true) (data : Bytes) :
      Step streamId half (WtSessionInfo.streamEvents false streamId data, data) .receiving
  | fin {half : RecvHalf} (hopen : half.isOpen = true) (data : Bytes) :
      Step streamId half (WtSessionInfo.streamEvents true streamId data, data) .finished
  | reset {half : RecvHalf} (hopen : half.isOpen = true) (errorCode : Nat) :
      Step streamId half ([WtSessionInfo.resetEvent streamId errorCode], []) .reset

/-- What the events so far say about the half. -/
inductive Said : List H2Event → RecvHalf → Prop
  | going {events : List H2Event} {half : RecvHalf} (hplain : ∀ e ∈ events, e.isPlainData = true)
      (hopen : half.isOpen = true ∨ half = .released) : Said events half
  | ended {events : List H2Event} {e : H2Event} {half : RecvHalf}
      (hplain : ∀ e ∈ events, e.isPlainData = true) (hend : e.isEnd = true)
      (hplain' : e.isPlainData = false) (hclosed : half.isOpen = false) : Said (events ++ [e]) half

theorem Said.grammar {events : List H2Event} {half : RecvHalf} (h : Said events half) :
    recvGrammar events = true := by
  have hbody : ∀ {events : List H2Event} (tail : List H2Event),
      (∀ e ∈ events, e.isPlainData = true) → recvGrammar (events ++ tail) = recvGrammar tail := by
    intro events tail hplain
    induction events with
    | nil => rfl
    | cons e events ih =>
        have hfirst := hplain e List.mem_cons_self
        rw [List.cons_append, recvGrammar, if_pos hfirst]
        exact ih fun e' he' => hplain e' (List.mem_cons_of_mem _ he')
  cases h with
  | going hplain hopen =>
      have hall := hbody [] hplain
      rwa [List.append_nil] at hall
  | ended hplain hend hplain' hclosed =>
      rw [hbody _ hplain, recvGrammar, if_neg (by simp [hplain']), hend]
      rfl

/-- A step keeps what the events say. -/
theorem Step.said {streamId : Nat} {half half' : RecvHalf} {l : List H2Event × Bytes}
    {events : List H2Event} (h : Step streamId half l half') (hsaid : Said events half) :
    Said (events ++ l.1) half' := by
  have hstill : half.isOpen = true → ∀ e ∈ events, e.isPlainData = true := by
    intro hopen
    cases hsaid with
    | going hplain hopen => exact hplain
    | ended hplain hend hplain' hclosed => simp [hopen] at hclosed
  cases h with
  | stay => rwa [List.append_nil]
  | create =>
      rw [List.append_nil]
      exact .going (hstill rfl) (Or.inl rfl)
  | forget =>
      rw [List.append_nil]
      exact .going (hstill rfl) (Or.inl rfl)
  | release =>
      rw [List.append_nil]
      cases hsaid with
      | going hplain hopen => exact .going hplain (Or.inr rfl)
      | ended hplain hend hplain' hclosed => exact .ended hplain hend hplain' rfl
  | data hopen data =>
      refine .going ?_ (Or.inl rfl)
      intro e he
      rcases List.mem_append.1 he with he | he
      · exact hstill hopen e he
      · rw [WtSessionInfo.mem_streamEvents he]
        rfl
  | fin hopen data =>
      have hevents : WtSessionInfo.streamEvents true streamId data =
          [{ type := .streamData, streamId := streamId, data := data, fin := true }] :=
        if_pos (Or.inr rfl)
      rw [hevents]
      exact .ended (hstill hopen) rfl rfl rfl
  | reset hopen errorCode => exact .ended (hstill hopen) rfl rfl rfl

/-- The data of the events is the data taken in. -/
theorem Step.data_eq {streamId : Nat} {half half' : RecvHalf} {l : List H2Event × Bytes}
    (h : Step streamId half l half') : (l.1.flatMap fun e => e.data) = l.2 := by
  have hevents : ∀ fin data, ((WtSessionInfo.streamEvents fin streamId data).flatMap
      fun e => e.data) = data := by
    intro fin data
    unfold WtSessionInfo.streamEvents
    split_ifs with hnonempty
    · simp
    · have hdata : data = [] := List.length_eq_zero_iff.1 (by omega)
      simp [hdata]
  cases h with
  | data hopen data => exact hevents false data
  | fin hopen data => exact hevents true data
  | _ => rfl

/-- An ended half stays as it is until its entry is released. -/
theorem Step.of_ended {streamId : Nat} {half half' : RecvHalf} {l : List H2Event × Bytes}
    (h : Step streamId half l half') (hended : half.isOpen = false) :
    half' = half ∨ half' = .released := by
  cases h with
  | stay => exact Or.inl rfl
  | release => exact Or.inr rfl
  | create => cases hended
  | forget => cases hended
  | data hopen => simp [hended] at hopen
  | fin hopen => simp [hended] at hopen
  | reset hopen => simp [hended] at hopen

end RecvHalf

/-! ## The half of a stream in a session entry -/

/-- The half of a stream entry with the given receive state. -/
def StreamState.recvHalf : StreamState → RecvHalf
  | .dataRecvd => .finished
  | .resetRecvd => .reset
  | _ => .receiving

theorem StreamState.isOpen_recvHalf {state : StreamState} :
    state.recvHalf.isOpen = !state.recvDone := by
  cases state <;> rfl

namespace WtSessionInfo

/-- The receiving half of a stream id. -/
def recvHalf (w : WtSessionInfo) (streamId : Nat) : RecvHalf :=
  match w.streams.find? streamId with
  | some info => info.recvState.recvHalf
  | none => if streamId ∈ w.releasedStreamIds then .released else .unknown

theorem recvHalf_of_find? {w : WtSessionInfo} {streamId : Nat} {info : WtStreamInfo}
    (h : w.streams.find? streamId = some info) : w.recvHalf streamId = info.recvState.recvHalf := by
  unfold recvHalf
  rw [h]

theorem recvHalf_of_new {w : WtSessionInfo} {streamId : Nat}
    (h : w.streams.find? streamId = none) (hnew : streamId ∉ w.releasedStreamIds) :
    w.recvHalf streamId = .unknown := by
  unfold recvHalf
  rw [h]
  exact if_neg hnew

theorem recvHalf_setStream (w : WtSessionInfo) (streamId : Nat) (info : WtStreamInfo) (id : Nat) :
    (w.setStream streamId info).recvHalf id =
      if id = streamId then info.recvState.recvHalf else w.recvHalf id := by
  unfold recvHalf
  rw [find?_setStream, setStream_releasedStreamIds]
  split_ifs <;> rfl

theorem recvHalf_same {w w' : WtSessionInfo} (hstreams : w'.streams = w.streams)
    (hreleased : w'.releasedStreamIds = w.releasedStreamIds) (id : Nat) :
    w'.recvHalf id = w.recvHalf id := by
  unfold recvHalf
  rw [hstreams, hreleased]

/-- Rewriting a stream entry without touching its receive state keeps every half. -/
theorem recvHalf_rewrite {w w₁ : WtSessionInfo} {streamId : Nat} {info info' : WtStreamInfo}
    (hfind : w.streams.find? streamId = some info) (id : Nat)
    (hstate : info'.recvState = info.recvState := by rfl)
    (hstreams : w₁.streams = w.streams := by rfl)
    (hreleased : w₁.releasedStreamIds = w.releasedStreamIds := by rfl) :
    (w₁.setStream streamId info').recvHalf id = w.recvHalf id := by
  rw [recvHalf_setStream, recvHalf_same hstreams hreleased]
  split_ifs with hid
  · rw [hid, recvHalf_of_find? hfind, hstate]
  · rfl

end WtSessionInfo

/-! ## Changes of the entry are steps of the half -/

/-- The data of a received capsule for a stream id. -/
def Received.dataFor (streamId : Nat) : Received → Bytes
  | .stream _ id data => if id = streamId then data else []
  | _ => []

/-- What a label brings to the receiving half of a stream id. -/
def Label.recvShare (streamId : Nat) : Label → List H2Event × Bytes
  | .received r events => (events.filter (·.isRecvEvent streamId), r.dataFor streamId)
  | _ => ([], [])

/-- No stream id is used a second time, and no FIN comes behind the end of a stream. -/
def Permits.orderly : Permits where
  reset _ := True
  stop _ := True
  create w streamId := streamId ∉ w.releasedStreamIds
  lateFin _ := False

namespace WtSessionInfo

section HalfStep

variable {config : H2SessionConfig} {isServer : Bool} {w w' : WtSessionInfo} {l : Label}

theorem step_stay {streamId : Nat} {l : List H2Event × Bytes} (hshare : l = ([], []))
    (hhalf : w'.recvHalf streamId = w.recvHalf streamId) :
    RecvHalf.Step streamId (w.recvHalf streamId) l (w'.recvHalf streamId) := by
  rw [hshare, hhalf]
  exact .stay _

theorem filter_streamEvents (fin : Bool) (streamId : Nat) (data : Bytes) (id : Nat) :
    (streamEvents fin streamId data).filter (·.isRecvEvent id) =
      if streamId = id then streamEvents fin streamId data else [] := by
  unfold streamEvents
  split_ifs with hshown hid hid <;> simp [H2Event.isRecvEvent, *]

/-- The half an arriving data capsule finds is the one of the entry it reaches. -/
theorem Reaches.recvHalf {permits : Permits} {streamId : Nat} {info : WtStreamInfo}
    (h : Reaches permits config isServer w streamId info) (hopen : info.recvState.recvDone = false) :
    (w.recvHalf streamId).isOpen = true := by
  cases h with
  | existing hfind =>
      rw [recvHalf_of_find? hfind, StreamState.isOpen_recvHalf, hopen]
      rfl
  | created hcreate hnone hreleased hlimit =>
      rw [recvHalf_of_new hnone hreleased]
      rfl

theorem recvHalf_receiving {state : StreamState} (h : state.recvDone = false) :
    state.recvHalf = .receiving := by
  cases state <;> first | rfl | cases h

/-- Opening a stream creates its half. -/
theorem half_step_open {w₁ : WtSessionInfo} {streamId : Nat} {info : WtStreamInfo}
    (hnone : w.streams.find? streamId = none) (hnew : streamId ∉ w.releasedStreamIds)
    (hstate : info.recvState = .recv) (hstreams : w₁.streams = w.streams)
    (hreleased : w₁.releasedStreamIds = w.releasedStreamIds) (id : Nat) :
    RecvHalf.Step id (w.recvHalf id) ([], []) ((w₁.setStream streamId info).recvHalf id) := by
  rw [recvHalf_setStream]
  split_ifs with hid
  · rw [hid, recvHalf_of_new hnone hnew, hstate]
    exact .create
  · rw [recvHalf_same hstreams hreleased]
    exact .stay _

/-- Stream data is a data or a FIN step of its stream, or an empty capsule without effect. -/
theorem half_step_stream {streamId : Nat} {info : WtStreamInfo} {fin : Bool} {data : Bytes}
    (hreaches : Reaches .orderly config isServer w streamId info)
    (hstate : data ≠ [] → info.recvState.recvDone = false)
    (hlate : fin = true → info.recvState.recvDone = true → False) (id : Nat) :
    RecvHalf.Step id (w.recvHalf id)
      (Label.recvShare id
        (.received (.stream fin streamId data) (streamEvents fin streamId data)))
      ((w.countReceived streamId
        { info with recvState := if fin then .dataRecvd else info.recvState }
          data.length).recvHalf id) := by
  have hafter : (w.countReceived streamId
      { info with recvState := if fin then .dataRecvd else info.recvState } data.length).recvHalf id =
      if id = streamId then (if fin then .dataRecvd else info.recvState).recvHalf
      else w.recvHalf id := recvHalf_setStream _ _ _ _
  rw [hafter]
  dsimp only [Label.recvShare, Received.dataFor]
  rw [filter_streamEvents]
  by_cases hid : id = streamId
  · subst hid
    simp only [if_true]
    cases fin with
    | true =>
        have hopen : info.recvState.recvDone = false := Bool.eq_false_iff.2 (hlate rfl)
        exact .fin (hreaches.recvHalf hopen) data
    | false =>
        simp only [Bool.false_eq_true, if_false]
        by_cases hdone : info.recvState.recvDone = true
        · -- Nothing is taken in behind the end.
          have hempty : data = [] := by
            by_contra hne
            simp [hstate hne] at hdone
          rw [hempty]
          cases hreaches with
          | existing hfind =>
              rw [recvHalf_of_find? hfind]
              exact .stay _
          | created => simp [newPeerStream_recvState, StreamState.recvDone] at hdone
        · have hopen : info.recvState.recvDone = false := Bool.eq_false_iff.2 hdone
          rw [recvHalf_receiving hopen]
          exact .data (hreaches.recvHalf hopen) data
  · rw [if_neg hid, if_neg (Ne.symm hid), if_neg (Ne.symm hid)]
    exact .stay _

theorem half_step_reset {streamId : Nat} {info : WtStreamInfo} {errorCode size : Nat}
    (hreaches : Reaches .orderly config isServer w streamId info)
    (hstate : info.recvState.recvDone = false) (id : Nat) :
    RecvHalf.Step id (w.recvHalf id)
      (Label.recvShare id
        (.received (.resetStream streamId errorCode size) [resetEvent streamId errorCode]))
      ((w.setStream streamId { info with recvState := .resetRecvd }).recvHalf id) := by
  rw [recvHalf_setStream]
  by_cases hid : id = streamId
  · subst hid
    have hshare : Label.recvShare id (.received (.resetStream id errorCode size)
        [resetEvent id errorCode]) = ([resetEvent id errorCode], []) := by
      simp [Label.recvShare, Received.dataFor, H2Event.isRecvEvent, resetEvent]
    rw [hshare, if_pos rfl]
    exact .reset (hreaches.recvHalf hstate) errorCode
  · have hshare : Label.recvShare id (.received (.resetStream streamId errorCode size)
        [resetEvent streamId errorCode]) = ([], []) := by
      simp [Label.recvShare, Received.dataFor, H2Event.isRecvEvent, resetEvent, Ne.symm hid]
    rw [hshare, if_neg hid]
    exact .stay _

/-- A released stream is recorded, unless only this side sent on it. -/
theorem half_step_release (hwf : Wf isServer w)
    (hroom : w.releasedStreamIds.card < kMaxReceivedMapEntries) {streamId : Nat}
    {info : WtStreamInfo} (hfind : w.streams.find? streamId = some info) (id : Nat) :
    RecvHalf.Step id (w.recvHalf id) ([], []) ((w.dropStream streamId info).recvHalf id) := by
  have hinfo := hwf.stream hfind
  have hstreams : (w.dropStream streamId info).streams = w.streams.erase streamId := rfl
  by_cases hid : id = streamId
  · subst hid
    have hgone : (w.dropStream id info).streams.find? id = none := by
      rw [hstreams, OrdMap.find?_erase_self]
    by_cases hsendOnly : info.isLocal = true ∧ info.isUnidirectional = true
    · -- Its id is no receivable one, so its receive state was never touched.
      have hnot : isReceivableDataCapsule id isServer = false := by
        have hlocal := hinfo.local_eq
        have huni := hinfo.uni_eq
        rw [hsendOnly.1] at hlocal
        rw [hsendOnly.2] at huni
        simp [isReceivableDataCapsule, ← huni, ← hlocal]
      have hhalf : w.recvHalf id = .receiving := by
        rw [recvHalf_of_find? hfind, hinfo.recv_only hnot]
        rfl
      by_cases hmem : id ∈ (w.dropStream id info).releasedStreamIds
      · have hafter : (w.dropStream id info).recvHalf id = .released := by
          unfold recvHalf
          rw [hgone]
          exact if_pos hmem
        rw [hafter]
        exact .release
      · rw [hhalf, recvHalf_of_new hgone hmem]
        exact .forget
    · have hmem : id ∈ (w.dropStream id info).releasedStreamIds := by
        unfold dropStream
        dsimp only
        rw [if_pos ⟨by simpa [imp_iff_not_or] using hsendOnly, hroom⟩]
        exact Finset.mem_insert_self _ _
      have hafter : (w.dropStream id info).recvHalf id = .released := by
        unfold recvHalf
        rw [hgone]
        exact if_pos hmem
      rw [hafter]
      exact .release
  · have hmem : id ∈ (w.dropStream streamId info).releasedStreamIds ↔ id ∈ w.releasedStreamIds := by
      unfold dropStream
      dsimp only
      split_ifs
      · rw [Finset.mem_insert]
        exact or_iff_right hid
      · exact Iff.rfl
    refine step_stay rfl ?_
    unfold recvHalf
    rw [hstreams, OrdMap.find?_erase_ne _ hid]
    simp only [hmem]

/-- Every change of the entry is a step of the half of every stream id. -/
theorem Trans.half_step (h : Trans .orderly config isServer w l w') (hwf : Wf isServer w)
    (hroom : w.releasedStreamIds.card < kMaxReceivedMapEntries) (id : Nat) :
    RecvHalf.Step id (w.recvHalf id) (l.recvShare id) (w'.recvHalf id) := by
  cases h with
  | enqueue data fin hfind => exact step_stay rfl (recvHalf_rewrite hfind id)
  | sendPart hfind => exact step_stay rfl (recvHalf_rewrite hfind id)
  | sendFront hfind => exact step_stay rfl (recvHalf_rewrite hfind id)
  | clearPending hfind => exact step_stay rfl (recvHalf_rewrite hfind id)
  | dataBlocked => exact step_stay rfl rfl
  | streamDataBlocked hfind => exact step_stay rfl (recvHalf_rewrite hfind id)
  | reset errorCode hpermit hfind => exact step_stay rfl (recvHalf_rewrite hfind id)
  | stop errorCode hpermit hfind hfirst => exact step_stay rfl rfl
  | release hfind hreleasable => exact half_step_release hwf hroom hfind id
  | grantData hrise hle => exact step_stay rfl rfl
  | grantStreamData hfind => exact step_stay rfl (recvHalf_rewrite hfind id)
  | grantStreamsBidi hlt => exact step_stay rfl rfl
  | grantStreamsUni hlt => exact step_stay rfl rfl
  | openBidi hcreate hopened hnone =>
      exact half_step_open hnone hcreate (newStream_recvState _ _ _ _ _) rfl rfl id
  | openUni hcreate hopened hnone =>
      exact half_step_open hnone hcreate (newStream_recvState _ _ _ _ _) rfl rfl id
  | streamsBlockedBidi => exact step_stay rfl rfl
  | streamsBlockedUni => exact step_stay rfl rfl
  | sendDatagram data => exact step_stay rfl rfl
  | sendDrain => exact step_stay rfl rfl
  | recvStream hreceivable hreaches hstate hlate hsession hstream =>
      exact half_step_stream hreaches hstate hlate id
  | recvReset hreceivable hreaches hstate => exact half_step_reset hreaches hstate id
  | recvStop hreceivable hfirst hfind =>
      refine step_stay ?_ (recvHalf_rewrite hfind id)
      simp [Label.recvShare, Received.dataFor, H2Event.isRecvEvent, stopEvent]
  | recvStopUnknown hreceivable hfirst hfind =>
      refine step_stay ?_ (recvHalf_same rfl rfl id)
      dsimp only [Label.recvShare, Received.dataFor]
      split_ifs <;> simp [H2Event.isRecvEvent, stopEvent]
  | recvMaxData hrise => exact step_stay rfl (by split_ifs <;> rfl)
  | recvMaxStreamData hreceivable hstop hrise hfind =>
      refine step_stay rfl ?_
      split_ifs
      · exact recvHalf_rewrite hfind id
      · rfl
  | recvMaxStreamDataUnknown hreceivable hstop hrise hfind => exact step_stay rfl rfl
  | recvMaxStreamsBidi hle hrise => exact step_stay rfl (by split_ifs <;> rfl)
  | recvMaxStreamsUni hle hrise => exact step_stay rfl (by split_ifs <;> rfl)
  | @recvNothing r hnothing =>
      refine step_stay ?_ rfl
      cases r with
      | stream fin streamId data =>
          simp [Label.recvShare, Received.dataFor, Received.quietEvents, hnothing.1]
      | datagram data =>
          simp [Label.recvShare, Received.dataFor, Received.quietEvents, H2Event.isRecvEvent]
      | drainSession =>
          simp [Label.recvShare, Received.dataFor, Received.quietEvents, H2Event.isRecvEvent]
      | _ => rfl

/-- The events and the data of one stream id along the labels so far. -/
structure Heard (id : Nat) (ls : List Label) (w : WtSessionInfo) : Prop where
  said : RecvHalf.Said ((Label.eventsOf ls).filter (·.isRecvEvent id)) (w.recvHalf id)
  data_eq : (((Label.eventsOf ls).filter (·.isRecvEvent id)).flatMap fun e => e.data) =
    (Label.receivedOf ls).flatMap (Received.dataFor id)

theorem heard_concat {id : Nat} {past : List Label} (h : Heard id past w)
    (hstep : RecvHalf.Step id (w.recvHalf id) (l.recvShare id) (w'.recvHalf id)) :
    Heard id (past ++ [l]) w' := by
  have hevents : (Label.eventsOf (past ++ [l])).filter (·.isRecvEvent id) =
      (Label.eventsOf past).filter (·.isRecvEvent id) ++ (l.recvShare id).1 := by
    rw [Label.eventsOf_append, List.filter_append]
    cases l <;> simp [Label.eventsOf, Label.recvShare]
  have hdata : (Label.receivedOf (past ++ [l])).flatMap (Received.dataFor id) =
      (Label.receivedOf past).flatMap (Received.dataFor id) ++ (l.recvShare id).2 := by
    rw [Label.receivedOf_append, List.flatMap_append]
    cases l <;> simp [Label.receivedOf, Label.recvShare]
  refine ⟨?_, ?_⟩
  · rw [hevents]
    exact hstep.said h.said
  · rw [hevents, hdata, List.flatMap_append, h.data_eq, hstep.data_eq]

/-- Along a path that records every released stream, every stream id keeps to the grammar. -/
theorem heard_of_path {ls : List Label} (h : Path (Trans .orderly config isServer) w ls w')
    (hwf : Wf isServer w) (hroom : w'.releasedStreamIds.card < kMaxReceivedMapEntries) (id : Nat)
    (hstart : Heard id [] w) : Heard id ls w' := by
  have hinv := h.history
    (fun past v => Wf isServer v ∧
      (v.releasedStreamIds.card < kMaxReceivedMapEntries → Heard id past v))
    (by
      rintro past a b l ⟨hwf, hheard⟩ hab
      refine ⟨hab.wf hwf, fun hroom' => ?_⟩
      -- The record only grows, so there was room before the step as well.
      have hbefore := lt_of_le_of_lt (Finset.card_le_card hab.released_subset) hroom'
      exact heard_concat (hheard hbefore) (hab.half_step hwf hbefore id))
    [] ⟨hwf, fun _ => hstart⟩
  exact hinv.2 hroom

/-- Along such a path an ended half stays ended. -/
theorem ended_of_path {ls : List Label} (h : Path (Trans .orderly config isServer) w ls w')
    (hwf : Wf isServer w) (hroom : w'.releasedStreamIds.card < kMaxReceivedMapEntries) {id : Nat}
    (hended : (w.recvHalf id).isOpen = false) :
    w'.recvHalf id = w.recvHalf id ∨ w'.recvHalf id = .released := by
  have hinv := h.invariant
    (fun v => Wf isServer v ∧ (v.releasedStreamIds.card < kMaxReceivedMapEntries →
      v.recvHalf id = w.recvHalf id ∨ v.recvHalf id = .released))
    (by
      rintro a b l ⟨hwf, hhalf⟩ hab
      refine ⟨hab.wf hwf, fun hroom' => ?_⟩
      have hbefore := lt_of_le_of_lt (Finset.card_le_card hab.released_subset) hroom'
      have hstep := hab.half_step hwf hbefore id
      rcases hhalf hbefore with hsame | hreleased
      · rw [hsame] at hstep
        exact hstep.of_ended hended
      · rw [hreleased] at hstep
        exact Or.inr (or_self_iff.1 (hstep.of_ended rfl)))
    ⟨hwf, fun _ => Or.inl rfl⟩
  exact hinv.2 hroom

end HalfStep

end WtSessionInfo

/-! ## Runs of a session -/

namespace SessionScope

open WtSessionInfo (Wf Stands Trans)

/-- The receive-side events pushed for a stream id. -/
def recvEvents (streamId : Nat) (sc : SessionScope) : List H2Event :=
  sc.effects.filterMap fun
    | .event e => if e.isRecvEvent streamId then some e else none
    | _ => none

/-- Fewer than `kMaxReceivedMapEntries` streams have been released. -/
def FewReleased (sc : SessionScope) : Prop :=
  ∀ w, sc.entry = some w → w.releasedStreamIds.card < kMaxReceivedMapEntries

/-- The operation brings an empty WT_STREAM_FIN for a stream entry whose receiving half has
ended. -/
def LateFin (sc : SessionScope) (op : Op) : Prop :=
  ∃ c w streamId info, op = .receive c ∧
    readPayload c.type c.payload = .received (.stream true streamId []) ∧ sc.entry = some w ∧
    w.streams.find? streamId = some info ∧ info.recvState.recvDone = true

/-- The operation opens a stream under an id that has been released before (the peer used the id
before it was opened here). -/
def Reopens (sc : SessionScope) (op : Op) : Prop :=
  ∃ isUnidirectional w, op = .openStream isUnidirectional ∧ sc.entry = some w ∧
    w.streams.find? (w.nextStreamId sc.isServer isUnidirectional) = none ∧
    w.nextStreamId sc.isServer isUnidirectional ∈ w.releasedStreamIds

/-- A step of an orderly run. -/
def OrderlyStep (sc : SessionScope) (op : Op) (sc' : SessionScope) : Prop :=
  ¬ sc.LateFin op ∧ ¬ sc.Reopens op ∧ sc' = sc.step op ∧ sc'.FewReleased

section RecvRun

variable {sc sc' : SessionScope} {w₀ w : WtSessionInfo} {ls : List Label}

theorem stepUnder_of_orderly {op : Op} (h : sc.OrderlyStep op sc') :
    sc.StepUnder .orderly op sc' := by
  rcases h with ⟨hlate, hreopens, hstep, -⟩
  refine ⟨?_, hstep⟩
  intro w hw
  cases op with
  | openStream isUnidirectional =>
      exact fun hnone hmem => hreopens ⟨isUnidirectional, w, rfl, hw, hnone, hmem⟩
  | receive c =>
      intro r hr
      refine ⟨fun _ _ _ _ => trivial, fun _ _ _ hnew => hnew, ?_⟩
      rintro streamId info rfl hfind hdone
      exact hlate ⟨c, w, streamId, info, rfl, hr, hw, hfind, hdone⟩
  | resetStream streamId errorCode => trivial
  | stopSending streamId errorCode => trivial
  | sendStreamData streamId data fin => trivial
  | sendDatagram data => trivial
  | drainSession => trivial
  | closeSession errorCode message => trivial

/-- The record of released streams is the one of the last change. -/
theorem released_of_stands {permits : Permits} {config : H2SessionConfig} {isServer : Bool}
    {w' : WtSessionInfo} (h : Stands permits config isServer w (some w')) :
    w'.releasedStreamIds = w.releasedStreamIds := by
  cases h with
  | live => rfl
  | ended => rfl
  | refused hcreated =>
      rcases hcreated.exists_stream with ⟨streamId, -, -, -, rfl⟩
      rfl

/-- An orderly run follows labels, with room in the record of released streams. -/
theorem orderly_run (hwf : Wf sc.isServer w₀) (hlive : w₀.isTerminated = false)
    (hbuf : w₀.capsuleBuffer = []) (h : Follows .orderly w₀ ls w sc)
    (hroom : w.releasedStreamIds.card < kMaxReceivedMapEntries) {ops : List Op}
    (hrun : Path OrderlyStep sc ops sc') :
    ∃ ls' w', Follows .orderly w₀ (ls ++ ls') w' sc' ∧
      Path (Trans .orderly sc.config sc.isServer) w ls' w' ∧
      w'.releasedStreamIds.card < kMaxReceivedMapEntries ∧ sc'.isServer = sc.isServer ∧
      sc'.config = sc.config ∧ Label.receivedOf ls' = sc.acceptedCapsules ops := by
  induction ops generalizing sc ls w with
  | nil =>
      cases hrun
      exact ⟨[], w, by rw [List.append_nil]; exact h, Path.none w, hroom, rfl, rfl, rfl⟩
  | cons op ops ih =>
      rcases hrun with ⟨mid, hstep, hrest⟩
      rcases step_follows hwf hlive hbuf h (stepUnder_of_orderly hstep) with
        ⟨ls₁, w₁, hfollows, hpath, hrole, hconfig, hgone, -, hrecv⟩
      have hroom' : w₁.releasedStreamIds.card < kMaxReceivedMapEntries := by
        cases hentry : mid.entry with
        | none =>
            rw [hgone hentry]
            exact hroom
        | some w'' =>
            have hstands := hfollows.stands
            rw [hentry] at hstands
            rw [← released_of_stands hstands]
            exact hstep.2.2.2 w'' hentry
      rcases ih (hrole ▸ hwf) hfollows hroom' hrest with
        ⟨ls₂, w₂, hend, hpath', hroom₂, hrole', hconfig', hrecv'⟩
      rw [List.append_assoc] at hend
      rw [hrole, hconfig] at hpath'
      have hmid : mid = sc.step op := hstep.2.2.1
      refine ⟨ls₁ ++ ls₂, w₂, hend, hpath.join hpath', hroom₂, hrole'.trans hrole,
        hconfig'.trans hconfig, ?_⟩
      rw [Label.receivedOf_append, hrecv, hrecv', hmid]
      rfl

/-- The receive-side events are those the labels name. -/
theorem recvEvents_eq {permits : Permits} (h : Follows permits w₀ ls w sc) (id : Nat) :
    sc.recvEvents id = ((Label.eventsOf ls).filter (·.isRecvEvent id)).map
      fun e => { e with sessionId := sc.sessionId } := by
  have hpushed : sc.recvEvents id = (Effect.pushed sc.effects).filter (·.isRecvEvent id) := by
    unfold recvEvents Effect.pushed
    rw [List.filter_filterMap]
    congr 1
    funext e
    cases e with
    | event e =>
        cases hend : e.reportsEnd with
        | true =>
            -- An event that reports the end is none of a receiving half.
            have hnot : e.isRecvEvent id = false := by
              cases htype : e.type <;> simp_all [H2Event.isRecvEvent, H2Event.reportsEnd]
            simp [hend, hnot]
        | false => simp [hend, Option.filter]
    | _ => rfl
  rw [hpushed, h.pushed, List.filter_map]
  rfl

theorem recvGrammar_map (sessionId : Int) (events : List H2Event) :
    recvGrammar (events.map fun e => { e with sessionId := sessionId }) = recvGrammar events := by
  induction events with
  | nil => rfl
  | cons e events ih =>
      simp only [List.map_cons, recvGrammar, ih, List.isEmpty_map]
      rfl

/-- The stream entry of a session: one of the last change, or a fresh one of a refused capsule. -/
theorem find?_of_stands {config : H2SessionConfig} {isServer : Bool} {w' : WtSessionInfo} {id : Nat}
    {info : WtStreamInfo} (h : Stands .orderly config isServer w (some w'))
    (hfind : w'.streams.find? id = some info) :
    w.streams.find? id = some info ∨ w.recvHalf id = .unknown ∧ info.recvState = .recv := by
  cases h with
  | live => exact Or.inl hfind
  | ended => exact Or.inl hfind
  | refused hcreated =>
      rcases hcreated.exists_stream with ⟨streamId, -, hnone, hnew, rfl⟩
      have hset : (w.setStream streamId (w.newPeerStream config isServer streamId)).streams.find? id =
          some info := hfind
      rw [WtSessionInfo.find?_setStream] at hset
      split_ifs at hset with hid
      · cases hset
        rw [hid]
        exact Or.inr ⟨WtSessionInfo.recvHalf_of_new hnone hnew,
          WtSessionInfo.newPeerStream_recvState _ _ _ _⟩
      · exact Or.inl hset

theorem recvState_eq_of_recvHalf {a b : StreamState} (hdone : a.recvDone = true)
    (h : b.recvHalf = a.recvHalf) : b = a := by
  cases a <;> cases b <;> simp_all [StreamState.recvDone, StreamState.recvHalf]

/-- The receive state of a stream entry does not leave a terminal value. -/
theorem recvState_stays {config : H2SessionConfig} {isServer : Bool} {w' w₁ w₂ : WtSessionInfo}
    (hpath : Path (Trans .orderly config isServer) w ls w') (hwf : Wf isServer w)
    (hroom : w'.releasedStreamIds.card < kMaxReceivedMapEntries)
    (hstands : Stands .orderly config isServer w (some w₁))
    (hstands' : Stands .orderly config isServer w' (some w₂)) {id : Nat} {info₁ info₂ : WtStreamInfo}
    (hfind : w₁.streams.find? id = some info₁) (hfind' : w₂.streams.find? id = some info₂) :
    info₁.recvState = .recv ∨ info₂.recvState = info₁.recvState := by
  rcases find?_of_stands hstands hfind with hfirst | ⟨-, hrecv⟩
  swap
  · exact Or.inl hrecv
  rcases (hwf.stream hfirst).recv_state with hrecv | hdone
  · exact Or.inl hrecv
  right
  have hhalf := WtSessionInfo.recvHalf_of_find? hfirst
  have hended : (w.recvHalf id).isOpen = false := by
    rw [hhalf, StreamState.isOpen_recvHalf, hdone]
    rfl
  have hlater := WtSessionInfo.ended_of_path hpath hwf hroom hended
  rcases find?_of_stands hstands' hfind' with hsecond | ⟨hunknown, -⟩
  · rw [WtSessionInfo.recvHalf_of_find? hsecond] at hlater
    rcases hlater with hsame | hreleased
    · rw [hhalf] at hsame
      exact recvState_eq_of_recvHalf hdone hsame
    · cases hstate : info₂.recvState <;> rw [hstate] at hreleased <;> cases hreleased
  · rw [hunknown] at hlater
    rcases hlater with hsame | hreleased
    · rw [← hsame] at hended
      cases hended
    · cases hreleased

theorem recvState_of_stands {config : H2SessionConfig} {isServer : Bool} {w' : WtSessionInfo}
    (hwf : Wf isServer w) (h : Stands .orderly config isServer w (some w')) {id : Nat}
    {info : WtStreamInfo} (hfind : w'.streams.find? id = some info) :
    info.recvState = .recv ∨ info.recvState = .dataRecvd ∨ info.recvState = .resetRecvd := by
  rcases find?_of_stands h hfind with hold | ⟨-, hrecv⟩
  · rcases (hwf.stream hold).recv_state with hrecv | hdone
    · exact Or.inl hrecv
    · cases hstate : info.recvState <;> rw [hstate] at hdone <;> simp_all [StreamState.recvDone]
  · exact Or.inl hrecv

/-- In every run without a late FIN and without a reused stream id, the events of a stream id are
plain data and at most one end with nothing behind it, their data is the data of the accepted
capsules, and the receive state of its entry leaves `recv` only once. -/
theorem recv_event_grammar (hfresh : sc.Fresh w₀) {ops : List Op}
    (hrun : Path OrderlyStep sc ops sc') (streamId : Nat) :
    recvGrammar (sc'.recvEvents streamId) = true ∧
      ((sc'.recvEvents streamId).flatMap fun e => e.data) =
        (sc.acceptedCapsules ops).flatMap (Received.dataFor streamId) ∧
      ∀ ops' sc'', Path OrderlyStep sc' ops' sc'' →
        ∀ w w' info info', sc'.entry = some w → sc''.entry = some w' →
          w.streams.find? streamId = some info → w'.streams.find? streamId = some info' →
          (info.recvState = .recv ∨ info'.recvState = info.recvState) ∧
            (info'.recvState = .recv ∨ info'.recvState = .dataRecvd ∨
              info'.recvState = .resetRecvd) := by
  have hroom : w₀.releasedStreamIds.card < kMaxReceivedMapEntries := by
    rw [hfresh.released]
    decide
  have hstart : Follows .orderly w₀ [] w₀ sc := by
    refine ⟨Path.none w₀, hfresh.entry ▸ .live, ?_, ?_⟩
    · rw [hfresh.effects]
      rfl
    · rw [hfresh.effects]
      rfl
  have hquiet : WtSessionInfo.Heard streamId [] w₀ := by
    refine ⟨.going (fun e he => absurd he List.not_mem_nil) (Or.inl ?_), rfl⟩
    rw [WtSessionInfo.recvHalf_of_new (by rw [hfresh.streams]; rfl) (by simp [hfresh.released])]
    rfl
  rcases orderly_run hfresh.wf hfresh.live hfresh.buffer hstart hroom hrun with
    ⟨ls, w, hfollows, hpath, hroom', hrole, -, hrecv⟩
  have hheard := WtSessionInfo.heard_of_path hpath hfresh.wf hroom' streamId hquiet
  have hevents := recvEvents_eq hfollows streamId
  rw [List.nil_append] at hevents
  refine ⟨?_, ?_, ?_⟩
  · rw [hevents, recvGrammar_map]
    exact hheard.said.grammar
  · rw [hevents, List.flatMap_map, hheard.data_eq, hrecv]
  · intro ops' sc'' hrun' w₁ w₂ info₁ info₂ hentry hentry' hfind hfind'
    have hwf' := (path_keeps hfollows.path (hrole ▸ hfresh.wf)).1
    rcases orderly_run (hrole ▸ hfresh.wf) hfresh.live hfresh.buffer hfollows hroom' hrun' with
      ⟨ls', w', hfollows', hpath', hroom'', hrole', hconfig', -⟩
    have hstands := hfollows.stands
    have hstands' := hfollows'.stands
    rw [hentry] at hstands
    rw [hrole', hconfig', hentry'] at hstands'
    exact ⟨recvState_stays hpath' hwf' hroom'' hstands hstands' hfind hfind',
      recvState_of_stands (path_keeps hpath' hwf').1 hstands' hfind'⟩

/-- WT_STREAM_FIN on the first stream of the client. -/
def finCapsule (data : Bytes) (h : (0 :: data).length ≤ kMaxQuicVarint := by decide) : RawCapsule where
  type := CapsuleType.wtStreamFin.toNat
  payload := 0 :: data
  type_le := by decide
  length_le := h

theorem fewReleased_of_card {n : Nat}
    (h : (sc.entry.map fun w => w.releasedStreamIds.card) = some n)
    (hn : n < kMaxReceivedMapEntries) : sc.FewReleased := by
  intro w hw
  rw [hw, Option.map_some] at h
  cases h
  exact hn

/-- WT_STREAM with two bytes on it. -/
def dataCapsule : RawCapsule where
  type := CapsuleType.wtStream.toNat
  payload := [0, 5, 6]
  type_le := by decide
  length_le := by decide

/-- A capsule with data is no late FIN. -/
theorem not_lateFin {sc : SessionScope} {c : RawCapsule} {fin : Bool} {streamId : Nat}
    {b : UInt8} {data : Bytes}
    (hread : readPayload c.type c.payload = .received (.stream fin streamId (b :: data))) :
    ¬ sc.LateFin (.receive c) := by
  rintro ⟨c', w, id, info, hop, hlate, -⟩
  cases hop
  rw [hread] at hlate
  cases hlate

theorem not_reopens_receive {sc : SessionScope} {c : RawCapsule} : ¬ sc.Reopens (.receive c) := by
  rintro ⟨isUni, w, hop, -⟩
  cases hop

/-- A stream that brings two bytes and ends with a third one. -/
theorem recv_event_grammar_three_bytes :
    let sc := plainSession.step (.receive dataCapsule)
    let sc' := sc.step (.receive (finCapsule [7]))
    (sc'.recvEvents 0).map (fun e => (e.data, e.fin)) = [([5, 6], false), ([7], true)] ∧
      recvGrammar (sc'.recvEvents 0) = true := by
  intro sc sc'
  refine ⟨by decide, ?_⟩
  have hfresh : plainSession.Fresh _ := ⟨rfl, rfl, rfl, rfl, rfl, rfl, rfl, rfl⟩
  have hfirst : plainSession.OrderlyStep (.receive dataCapsule) sc := by
    have hread : readPayload dataCapsule.type dataCapsule.payload =
        .received (.stream false 0 [5, 6]) := by decide
    exact ⟨not_lateFin hread, not_reopens_receive, rfl,
      fewReleased_of_card (n := 0) (by decide) (by decide)⟩
  have hsecond : sc.OrderlyStep (.receive (finCapsule [7])) sc' := by
    have hread : readPayload (finCapsule [7]).type (finCapsule [7]).payload =
        .received (.stream true 0 [7]) := by decide
    exact ⟨not_lateFin hread, not_reopens_receive, rfl,
      fewReleased_of_card (n := 0) (by decide) (by decide)⟩
  have hrun : Path OrderlyStep plainSession [.receive dataCapsule, .receive (finCapsule [7])] sc' :=
    (Path.one hfirst).join (Path.one hsecond)
  exact (recv_event_grammar hfresh hrun 0).1

/-- WT_RESET_STREAM on the first stream of the client. -/
def resetCapsule : RawCapsule where
  type := CapsuleType.wtResetStream.toNat
  payload := [0, 0, 0]
  type_le := by decide
  length_le := by decide

/-- An empty WT_STREAM_FIN behind the end of a stream whose entry survives pushes a second end
event, and behind a reset it moves the receive state on as well. -/
theorem late_fin_breaks_grammar :
    plainSession.Fresh { http2StreamId := 1, isEstablished := true, maxDataRemote := 1048576,
                         maxStreamsBidiRemote := 100, maxStreamsUniRemote := 100 } ∧
      (let sc := (plainSession.step (.receive (finCapsule [7]))).step (.receive (finCapsule []))
      sc.FewReleased ∧ recvGrammar (sc.recvEvents 0) = false) ∧
      let sc := plainSession.step (.receive resetCapsule)
      let sc' := sc.step (.receive (finCapsule []))
      sc'.FewReleased ∧
        ((sc.entry.bind fun w => w.streams.find? 0).map fun info => info.recvState) =
          some .resetRecvd ∧
        ((sc'.entry.bind fun w => w.streams.find? 0).map fun info => info.recvState) =
          some .dataRecvd := by
  refine ⟨⟨rfl, rfl, rfl, rfl, rfl, rfl, rfl, rfl⟩, ⟨?_, by decide⟩, ?_, by decide, by decide⟩
  · exact fewReleased_of_card (n := 0) (by decide) (by decide)
  · exact fewReleased_of_card (n := 0) (by decide) (by decide)

end RecvRun

end SessionScope

end H2
end WebTransport
