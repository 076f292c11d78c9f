import WebTransport.H2.Invariants

/-!
# H2.RecvWindow — the windows given to the peer

A session and each of its streams count what was received (`bytes_received`) against the limit
given to the peer (`max_data_remote`, `max_stream_data_remote`).  `maybe_send_max_data` and
`maybe_send_max_stream_data` raise the limit once more than half of it is used.

* `refilled`, `halfOpen_refilled` : one refill leaves half of the initial window, whatever was left
  before;
* `Windowed`                      : the windows of an entry, and what every change but received
  stream data does to them (`Trans.windowed`);
* `acceptStreamData_windowed`     : received stream data, which the refills answer;
* `recv_windows_stay_open`        : the windows in every run, behind every processed capsule.
-/

namespace WebTransport
namespace H2

open Bindings
open WtSessionInfo (replenishedLimit)

/-! ## One window -/

/-- The count stays within the limit, which never falls below the initial window. -/
structure Within (initial received limit : Nat) : Prop where
  received_le : received ≤ limit
  initial_le : initial ≤ limit
  limit_le : limit ≤ kMaxQuicVarint

/-- Half of the initial window is left, unless the limit cannot grow any more. -/
def HalfOpen (initial received limit : Nat) : Prop :=
  0 < initial → limit = kMaxQuicVarint ∨ (initial + 1) / 2 ≤ limit - received

instance (initial received limit : Nat) : Decidable (HalfOpen initial received limit) := by
  unfold HalfOpen
  infer_instance

/-- The limit behind `maybe_send_max_data` or `maybe_send_max_stream_data`. -/
def refilled (initial received limit : Nat) : Nat :=
  if initial = 0 then limit
  else if received ≤ limit / 2 then limit
  else if replenishedLimit received initial ≤ limit then limit
  else replenishedLimit received initial

theorem le_refilled (initial received limit : Nat) : limit ≤ refilled initial received limit := by
  unfold refilled
  split_ifs with hzero hhalf hle
  · exact Nat.le_refl _
  · exact Nat.le_refl _
  · exact Nat.le_refl _
  · exact (not_le.1 hle).le

theorem Within.refilled {initial received limit : Nat} (h : Within initial received limit) :
    Within initial received (refilled initial received limit) := by
  have hle := le_refilled initial received limit
  refine ⟨h.received_le.trans hle, h.initial_le.trans hle, ?_⟩
  unfold H2.refilled
  split_ifs
  · exact h.limit_le
  · exact h.limit_le
  · exact h.limit_le
  · exact WtSessionInfo.replenishedLimit_le received initial

/-- Where no more than half is used, half of the limit is left; otherwise the refill leaves a whole
initial window, or the limit is the largest that can be announced. -/
theorem halfOpen_refilled {initial received limit : Nat} (h : Within initial received limit) :
    HalfOpen initial received (refilled initial received limit) := by
  intro hpos
  have hreplenished : replenishedLimit received initial = kMaxQuicVarint ∨
      replenishedLimit received initial = received + initial := by
    unfold replenishedLimit
    dsimp only
    split_ifs
    · exact Or.inl rfl
    · exact Or.inr rfl
  have hreceived := h.received_le
  have hinitial := h.initial_le
  have hlimit := h.limit_le
  unfold refilled
  rw [if_neg hpos.ne']
  split_ifs with hhalf hle
  · exact Or.inr (by omega)
  · rcases hreplenished with heq | heq
    · exact Or.inl (Nat.le_antisymm hlimit (heq ▸ hle))
    · exact Or.inr (by omega)
  · rcases hreplenished with heq | heq
    · exact Or.inl heq
    · exact Or.inr (by omega)

/-- A higher limit leaves no less. -/
theorem HalfOpen.raise {initial received limit limit' : Nat} (h : HalfOpen initial received limit)
    (hle : limit ≤ limit') (hmax : limit' ≤ kMaxQuicVarint) : HalfOpen initial received limit' := by
  intro hpos
  rcases h hpos with hend | hopen
  · exact Or.inl (Nat.le_antisymm hmax (hend ▸ hle))
  · exact Or.inr (hopen.trans (Nat.sub_le_sub_right hle received))

/-- A window nothing was received in. -/
theorem within_fresh {initial : Nat} (h : initial ≤ kMaxQuicVarint) : Within initial 0 initial :=
  ⟨Nat.zero_le _, Nat.le_refl _, h⟩

theorem halfOpen_fresh (initial : Nat) : HalfOpen initial 0 initial := by
  intro hpos
  right
  omega

namespace WtSessionInfo

open SessionScope (readHead)

/-! ## The windows of an entry -/

/-- The window of a stream. -/
structure StreamWindow (config : H2SessionConfig) (w : WtSessionInfo) (streamId : Nat)
    (info : WtStreamInfo) : Prop where
  within : Within config.wtInitialMaxStreamData info.bytesReceived info.maxStreamDataRemote
  halfOpen : streamId ∉ w.sentStopSendingStreamIds →
    HalfOpen config.wtInitialMaxStreamData info.bytesReceived info.maxStreamDataRemote

/-- The window of the session and those of its streams. -/
structure Windowed (config : H2SessionConfig) (w : WtSessionInfo) : Prop where
  within : Within config.wtInitialMaxData w.bytesReceived w.maxDataRemote
  halfOpen : HalfOpen config.wtInitialMaxData w.bytesReceived w.maxDataRemote
  stream : ∀ ⦃streamId : Nat⦄ ⦃info : WtStreamInfo⦄, w.streams.find? streamId = some info →
    StreamWindow config w streamId info

section Changes

variable {config : H2SessionConfig} {isServer : Bool} {w w' : WtSessionInfo} {streamId : Nat}
  {info info' : WtStreamInfo} {l : Label}

/-- A change beside the windows. -/
theorem Windowed.same (h : Windowed config w) (hreceived : w'.bytesReceived = w.bytesReceived)
    (hlimit : w'.maxDataRemote = w.maxDataRemote) (hstreams : w'.streams = w.streams)
    (hstop : w.sentStopSendingStreamIds ⊆ w'.sentStopSendingStreamIds) : Windowed config w' := by
  refine ⟨?_, ?_, ?_⟩
  · rw [hreceived, hlimit]
    exact h.within
  · rw [hreceived, hlimit]
    exact h.halfOpen
  · intro streamId info hfind
    rw [hstreams] at hfind
    have hstream := h.stream hfind
    exact ⟨hstream.within, fun hnot => hstream.halfOpen fun hmem => hnot (hstop hmem)⟩

theorem Windowed.setStream (h : Windowed config w) (hinfo : StreamWindow config w streamId info) :
    Windowed config (w.setStream streamId info) := by
  refine ⟨h.within, h.halfOpen, ?_⟩
  intro streamId' info' hfind
  rw [find?_setStream] at hfind
  split_ifs at hfind with heq
  · cases hfind
    rw [heq]
    exact ⟨hinfo.within, hinfo.halfOpen⟩
  · have hstream := h.stream hfind
    exact ⟨hstream.within, hstream.halfOpen⟩

/-- Rewriting a stream entry beside its window. -/
theorem Windowed.update (h : Windowed config w) (hfind : w.streams.find? streamId = some info)
    (hreceived : info'.bytesReceived = info.bytesReceived)
    (hlimit : info'.maxStreamDataRemote = info.maxStreamDataRemote) :
    Windowed config (w.setStream streamId info') := by
  have hstream := h.stream hfind
  refine h.setStream ⟨?_, ?_⟩
  · rw [hreceived, hlimit]
    exact hstream.within
  · rw [hreceived, hlimit]
    exact hstream.halfOpen

theorem newStream_window (w : WtSessionInfo) (config : H2SessionConfig) (streamId : Nat)
    (isLocal isUni : Bool) :
    (w.newStream config streamId isLocal isUni).bytesReceived = 0 ∧
      (w.newStream config streamId isLocal isUni).maxStreamDataRemote =
        config.wtInitialMaxStreamData := by
  unfold newStream initializeStreamSendCredit
  cases w.receivedMaxStreamDataById.find? streamId <;> exact ⟨rfl, rfl⟩

theorem streamWindow_newStream (hconfig : config.wtInitialMaxStreamData ≤ kMaxQuicVarint)
    (w w' : WtSessionInfo) (streamId : Nat) (isLocal isUni : Bool) :
    StreamWindow config w streamId (w'.newStream config streamId isLocal isUni) := by
  rcases newStream_window w' config streamId isLocal isUni with ⟨hreceived, hlimit⟩
  refine ⟨?_, ?_⟩
  · rw [hreceived, hlimit]
    exact within_fresh hconfig
  · rw [hreceived, hlimit]
    exact fun _ => halfOpen_fresh _

/-- The entry of a stream as a received capsule finds it. -/
theorem Reaches.window {permits : Permits} (h : Reaches permits config isServer w streamId info)
    (hconfig : config.wtInitialMaxStreamData ≤ kMaxQuicVarint) (hw : Windowed config w) :
    StreamWindow config w streamId info := by
  cases h with
  | existing hfind => exact hw.stream hfind
  | created hcreate hnone hreleased hlimit => exact streamWindow_newStream hconfig _ _ _ _ _

/-- Every change but received stream data keeps the windows open. -/
theorem Trans.windowed {permits : Permits} (h : Trans permits config isServer w l w')
    (hconfig : config.wtInitialMaxStreamData ≤ kMaxQuicVarint)
    (hl : ∀ fin streamId data events, l ≠ .received (.stream fin streamId data) events)
    (hw : Windowed config w) : Windowed config w' := by
  cases h with
  | enqueue data fin hfind hsendable hready hfin => exact hw.update hfind rfl rfl
  | @sendPart streamId info front rest size hfind hready hpending hsize hsession hstream =>
      have hsent : Windowed config { w with bytesSent := w.bytesSent + size } :=
        hw.same rfl rfl rfl (Finset.Subset.refl _)
      refine hsent.update (show _ = some info from hfind) ?_ ?_
      · rfl
      · rfl
  | @sendFront streamId info front rest hfind hready hpending hsession hstream =>
      have hsent : Windowed config { w with bytesSent := w.bytesSent + front.data.length } :=
        hw.same rfl rfl rfl (Finset.Subset.refl _)
      refine hsent.update (show _ = some info from hfind) ?_ ?_
      · rfl
      · rfl
  | clearPending hfind hdone => exact hw.update hfind rfl rfl
  | dataBlocked => exact hw.same rfl rfl rfl (Finset.Subset.refl _)
  | streamDataBlocked hfind hready hpending hexhausted => exact hw.update hfind rfl rfl
  | reset errorCode hpermit hfind hready => exact hw.update hfind rfl rfl
  | stop errorCode hpermit hfind hfirst =>
      exact hw.same rfl rfl rfl (Finset.subset_insert _ _)
  | @release streamId info hfind hreleasable =>
      refine ⟨hw.within, hw.halfOpen, ?_⟩
      intro streamId' info' hfind'
      have hkept : (w.streams.erase streamId).find? streamId' = some info' := hfind'
      rw [OrdMap.find?_erase] at hkept
      split_ifs at hkept
      have hstream := hw.stream hkept
      exact ⟨hstream.within, hstream.halfOpen⟩
  | @grantData maxData hrise hle =>
      have hwithin : Within config.wtInitialMaxData w.bytesReceived maxData :=
        ⟨hw.within.received_le.trans hrise.le, hw.within.initial_le.trans hrise.le, hle⟩
      exact ⟨hwithin, hw.halfOpen.raise hrise.le hle,
        fun streamId info hfind => ⟨(hw.stream hfind).within, (hw.stream hfind).halfOpen⟩⟩
  | @grantStreamData streamId info maxData hfind hreceivable hstop hrise hle =>
      have hstream := hw.stream hfind
      refine hw.setStream ⟨⟨?_, ?_, hle⟩, ?_⟩
      · exact hstream.within.received_le.trans hrise.le
      · exact hstream.within.initial_le.trans hrise.le
      · exact fun hnot => (hstream.halfOpen hnot).raise hrise.le hle
  | openBidi hcreate hopened hnone =>
      have hcounted : Windowed config (w.allocateStreamId false) :=
        hw.same rfl rfl rfl (Finset.Subset.refl _)
      exact hcounted.setStream (streamWindow_newStream hconfig _ _ _ _ _)
  | openUni hcreate hopened hnone =>
      have hcounted : Windowed config (w.allocateStreamId true) :=
        hw.same rfl rfl rfl (Finset.Subset.refl _)
      exact hcounted.setStream (streamWindow_newStream hconfig _ _ _ _ _)
  | recvStream hreceivable hreaches hstate hlate hsession hstream => exact absurd rfl (hl _ _ _ _)
  | recvReset hreceivable hreaches hstate =>
      have hstream := hreaches.window hconfig hw
      exact hw.setStream ⟨hstream.within, hstream.halfOpen⟩
  | @recvStop streamId info errorCode hreceivable hfirst hfind =>
      have hrecorded : Windowed config (w.recordStopSending streamId) :=
        hw.same rfl rfl rfl (Finset.Subset.refl _)
      refine hrecorded.update (show _ = some info from hfind) ?_ ?_
      · rfl
      · rfl
  | recvMaxData hrise =>
      split_ifs
      · exact hw.same rfl rfl rfl (Finset.Subset.refl _)
      · exact hw.same rfl rfl rfl (Finset.Subset.refl _)
  | @recvMaxStreamData streamId maxData info hreceivable hstop hrise hfind =>
      have hrecorded : Windowed config (w.recordMaxStreamData streamId maxData) :=
        hw.same rfl rfl rfl (Finset.Subset.refl _)
      split_ifs
      · refine hrecorded.update (show _ = some info from hfind) ?_ ?_
        · rfl
        · rfl
      · exact hrecorded
  | recvMaxStreamsBidi hle hrise =>
      split_ifs
      · exact hw.same rfl rfl rfl (Finset.Subset.refl _)
      · exact hw.same rfl rfl rfl (Finset.Subset.refl _)
  | recvMaxStreamsUni hle hrise =>
      split_ifs
      · exact hw.same rfl rfl rfl (Finset.Subset.refl _)
      · exact hw.same rfl rfl rfl (Finset.Subset.refl _)
  | _ => exact hw.same rfl rfl rfl (Finset.Subset.refl _)

theorem path_windowed {permits : Permits} {ls : List Label}
    (h : Path (Trans permits config isServer) w ls w')
    (hconfig : config.wtInitialMaxStreamData ≤ kMaxQuicVarint)
    (hls : ∀ l ∈ ls, ∀ fin streamId data events, l ≠ .received (.stream fin streamId data) events)
    (hw : Windowed config w) : Windowed config w' := by
  induction ls generalizing w with
  | nil =>
      cases h
      exact hw
  | cons l ls ih =>
      rcases h with ⟨mid, hone, hrest⟩
      have hmid := hone.windowed hconfig (hls l List.mem_cons_self) hw
      exact ih hrest (fun l' hl' => hls l' (List.mem_cons_of_mem _ hl')) hmid

/-- Labels that receive nothing receive no stream data. -/
theorem not_stream_of_receivedOf {ls : List Label} (h : Label.receivedOf ls = []) :
    ∀ l ∈ ls, ∀ fin streamId data events, l ≠ .received (.stream fin streamId data) events := by
  rintro l hl fin streamId data events rfl
  have hmem : Received.stream fin streamId data ∈ Label.receivedOf ls :=
    List.mem_filterMap.2 ⟨_, hl, rfl⟩
  rw [h] at hmem
  cases hmem

/-! ## Received stream data -/

theorem maybeSendMaxData_eq (hlive : w.isTerminated = false) :
    (w.maybeSendMaxData config).1 =
      { w with
        maxDataRemote := refilled config.wtInitialMaxData w.bytesReceived w.maxDataRemote } := by
  unfold maybeSendMaxData refilled
  rw [if_neg (by simp [hlive])]
  dsimp only
  by_cases hzero : config.wtInitialMaxData = 0
  · rw [if_pos hzero, if_pos hzero]
  rw [if_neg hzero, if_neg hzero]
  by_cases hhalf : w.bytesReceived ≤ w.maxDataRemote / 2
  · rw [if_pos hhalf, if_pos hhalf]
  rw [if_neg hhalf, if_neg hhalf]
  by_cases hle : replenishedLimit w.bytesReceived config.wtInitialMaxData ≤ w.maxDataRemote
  · rw [if_pos hle, if_pos hle]
  · rw [if_neg hle, if_neg hle]

theorem maybeSendMaxStreamData_eq (hlive : w.isTerminated = false)
    (hstop : streamId ∉ w.sentStopSendingStreamIds)
    (hfind : w.streams.find? streamId = some info) :
    (w.maybeSendMaxStreamData config streamId).1 =
      w.setStream streamId
        { info with
          maxStreamDataRemote :=
            refilled config.wtInitialMaxStreamData info.bytesReceived info.maxStreamDataRemote } := by
  have hself : w.setStream streamId info = w := setStream_of_find? hfind
  unfold maybeSendMaxStreamData refilled
  rw [if_neg (by simp [hlive]), if_neg hstop, hfind]
  dsimp only
  by_cases hzero : config.wtInitialMaxStreamData = 0
  · rw [if_pos hzero, if_pos hzero]
    exact hself.symm
  rw [if_neg hzero, if_neg hzero]
  by_cases hhalf : info.bytesReceived ≤ info.maxStreamDataRemote / 2
  · rw [if_pos hhalf, if_pos hhalf]
    exact hself.symm
  rw [if_neg hhalf, if_neg hhalf]
  by_cases hle : replenishedLimit info.bytesReceived config.wtInitialMaxStreamData ≤
      info.maxStreamDataRemote
  · rw [if_pos hle, if_pos hle]
    exact hself.symm
  · rw [if_neg hle, if_neg hle]

/-- Stream data that fits both windows is counted, and the refills open both again. -/
theorem acceptStreamData_windowed {size : Nat} {fin : Bool} (hlive : w.isTerminated = false)
    (hw : Windowed config w) (hstream : StreamWindow config w streamId info)
    (hsessionFits : w.bytesReceived + size ≤ w.maxDataRemote)
    (hstreamFits : info.bytesReceived + size ≤ info.maxStreamDataRemote)
    (hconfig : config.wtInitialMaxStreamData ≤ kMaxQuicVarint) :
    Windowed config (w.acceptStreamData config streamId info fin size).1 := by
  let info₁ : WtStreamInfo := { info with bytesReceived := info.bytesReceived + size }
  let limit := refilled config.wtInitialMaxData (w.bytesReceived + size) w.maxDataRemote
  -- The refill of the session.
  let w₁ : WtSessionInfo :=
    { w with bytesReceived := w.bytesReceived + size, maxDataRemote := limit }
  have hsession : ((w.countReceived streamId info size).maybeSendMaxData config).1 =
      w₁.setStream streamId info₁ := maybeSendMaxData_eq hlive
  have hcounted : Within config.wtInitialMaxData (w.bytesReceived + size) w.maxDataRemote :=
    ⟨hsessionFits, hw.within.initial_le, hw.within.limit_le⟩
  have hw₁ : Windowed config w₁ := by
    refine ⟨hcounted.refilled, halfOpen_refilled hcounted, ?_⟩
    intro streamId' info' hfind
    exact ⟨(hw.stream hfind).within, (hw.stream hfind).halfOpen⟩
  -- The refill of the stream, unless WT_STOP_SENDING was sent.
  have hcountedStream : Within config.wtInitialMaxStreamData info₁.bytesReceived
      info₁.maxStreamDataRemote :=
    ⟨hstreamFits, hstream.within.initial_le, hstream.within.limit_le⟩
  have hfind₁ : (w₁.setStream streamId info₁).streams.find? streamId = some info₁ :=
    find?_setStream_self w₁ streamId info₁
  have hreplenished : Windowed config
      ((w₁.setStream streamId info₁).maybeSendMaxStreamData config streamId).1 := by
    by_cases hstop : streamId ∈ w.sentStopSendingStreamIds
    · have hself : (w₁.setStream streamId info₁).maybeSendMaxStreamData config streamId =
          (w₁.setStream streamId info₁, []) := by
        have hlive₁ : (w₁.setStream streamId info₁).isTerminated = false := hlive
        have hstop₁ : streamId ∈ (w₁.setStream streamId info₁).sentStopSendingStreamIds := hstop
        unfold maybeSendMaxStreamData
        rw [hlive₁, if_pos hstop₁]
        rfl
      rw [hself]
      exact hw₁.setStream ⟨hcountedStream, fun hnot => absurd hstop hnot⟩
    · rw [maybeSendMaxStreamData_eq (w := w₁.setStream streamId info₁) hlive hstop hfind₁,
        setStream_setStream]
      exact hw₁.setStream ⟨hcountedStream.refilled, fun _ => halfOpen_refilled hcountedStream⟩
  unfold acceptStreamData
  dsimp only
  split_ifs
  · -- The FIN only changes the state, and releases.
    rw [Queued.andThen_fst, Queued.andThen_fst, hsession]
    generalize ((w₁.setStream streamId info₁).maybeSendMaxStreamData config streamId).1 = w₂
      at hreplenished
    unfold finishRecv
    cases hfind₂ : w₂.streams.find? streamId with
    | none => exact hreplenished
    | some info₂ =>
        have hemits : Emits .all config true
            (w₂.setStream streamId { info₂ with recvState := .dataRecvd })
            ((w₂.setStream streamId { info₂ with recvState := .dataRecvd }).maybeReleaseStream
              streamId) := maybeReleaseStream_emits _ streamId
        rcases hemits with ⟨ls, hpath, -, hreceived, -⟩
        have hdone : Windowed config (w₂.setStream streamId { info₂ with recvState := .dataRecvd }) :=
          hreplenished.update hfind₂ rfl rfl
        exact path_windowed hpath hconfig (not_stream_of_receivedOf hreceived) hdone
  · rw [Queued.andThen_fst, hsession]
    exact hreplenished

/-- The verdict on stream data that finds the entry `info`. -/
theorem judgeStreamData_windowed {old : WtSessionInfo} {fin : Bool} {data : Bytes}
    (hlive : old.isTerminated = false) (hw : Windowed config old)
    (hstream : StreamWindow config old streamId info)
    (hconfig : config.wtInitialMaxStreamData ≤ kMaxQuicVarint) :
    (old.judgeStreamData config info streamId fin data).Leaves (Windowed config) := by
  unfold judgeStreamData
  by_cases hstate : data.length > 0 ∧ info.recvState.recvDone = true
  · rw [if_pos hstate]
    exact hw
  by_cases hcredit : old.bytesReceived + data.length > old.maxDataRemote ∨
      info.bytesReceived + data.length > info.maxStreamDataRemote
  · rw [if_neg hstate, if_pos hcredit]
    exact hw
  rw [if_neg hstate, if_neg hcredit]
  have hsessionFits : old.bytesReceived + data.length ≤ old.maxDataRemote :=
    not_lt.1 fun hlt => hcredit (Or.inl hlt)
  have hstreamFits : info.bytesReceived + data.length ≤ info.maxStreamDataRemote :=
    not_lt.1 fun hlt => hcredit (Or.inr hlt)
  exact acceptStreamData_windowed hlive hw hstream hsessionFits hstreamFits hconfig

/-- The verdict on stream data, for a stream that is there or is created. -/
theorem judgeStream_windowed {fin : Bool} {data : Bytes} (hlive : w.isTerminated = false)
    (hw : Windowed config w) (hconfig : config.wtInitialMaxStreamData ≤ kMaxQuicVarint) :
    (w.judgeStream config isServer fin streamId data).Leaves (Windowed config) := by
  unfold judgeStream
  by_cases hreceivable : (!isReceivableDataCapsule streamId isServer) = true
  · rw [if_pos hreceivable]
    exact hw
  rw [if_neg hreceivable]
  cases hfind : w.streams.find? streamId with
  | some info => exact judgeStreamData_windowed hlive hw (hw.stream hfind) hconfig
  | none =>
      dsimp only
      by_cases hreleased : streamId ∈ w.releasedStreamIds
      · rw [if_pos hreleased]
        by_cases hempty : data.length = 0
        · rw [if_pos hempty]
          exact hw
        · rw [if_neg hempty]
          exact hw
      rw [if_neg hreleased]
      by_cases hlimit : w.incomingStreamExceedsLimit streamId = true
      · rw [if_pos hlimit]
        exact hw
      rw [if_neg hlimit]
      have hfresh : StreamWindow config w streamId (w.newPeerStream config isServer streamId) :=
        streamWindow_newStream hconfig _ _ _ _ _
      exact judgeStreamData_windowed hlive (hw.setStream hfresh) ⟨hfresh.within, hfresh.halfOpen⟩
        hconfig

end Changes

/-- The windows stay open whatever the application and the peer do. -/
theorem windowed_lasting {config : H2SessionConfig} {isServer : Bool}
    (hdata : config.wtInitialMaxData ≤ kMaxQuicVarint)
    (hstreamData : config.wtInitialMaxStreamData ≤ kMaxQuicVarint) :
    Lasting config isServer (fun _ _ => True) (Windowed config) where
  requested := by
    intro w hw
    refine ⟨?_, ?_, ?_⟩
    · rw [hw.received, hw.maxData]
      exact within_fresh hdata
    · rw [hw.received, hw.maxData]
      exact halfOpen_fresh _
    · intro streamId info hfind
      rw [hw.streams] at hfind
      cases hfind
  bookkeeping := by
    intro w w' hcore hw
    have hstop : w.sentStopSendingStreamIds ⊆ w'.sentStopSendingStreamIds :=
      Finset.subset_of_eq (congrArg sentStopSendingStreamIds hcore.symm :)
    exact hw.same (congrArg bytesReceived hcore :) (congrArg maxDataRemote hcore :)
      (congrArg streams hcore :) hstop
  limits := by
    rintro w ⟨u, bl, br⟩ hw
    cases u <;> cases bl <;> cases br <;> exact hw.same rfl rfl rfl (Finset.Subset.refl _)
  api := by
    intro w op hop _ hwf hw
    have hafter : ∃ ls, Path (Trans .all config isServer) w ls (w.after config isServer op) ∧
        Label.receivedOf ls = [] := after_path hwf op
    rcases hafter with ⟨ls, hpath, hreceived⟩
    exact path_windowed hpath hstreamData (not_stream_of_receivedOf hreceived) hw
  received := by
    intro w r _ hlive hwf hw
    cases r with
    | stream fin streamId data => exact judgeStream_windowed hlive hw hstreamData
    | _ =>
        refine judge_leaves hwf ?_ hw ?_
        · intro events ls w' hpath hreceived
          refine path_windowed hpath hstreamData ?_ hw
          intro l hl
          rcases List.mem_cons.1 hl with rfl | hl
          · intro fin streamId data events' heq
            cases heq
          · exact not_stream_of_receivedOf hreceived l hl
        · intro streamId _
          exact hw.setStream (streamWindow_newStream hstreamData _ _ _ _ _)

/-! ## The capsule at the head of the buffer -/

theorem payload_length_le {config : H2SessionConfig} {buffer payload rest : Bytes} {type : Nat}
    (h : readHead config buffer = .capsule type payload rest) :
    payload.length ≤ kMaxQuicVarint := by
  unfold SessionScope.readHead at h
  cases htype : decodeQuicVarint buffer with
  | none =>
      rw [htype] at h
      cases h
  | some r =>
      rw [htype] at h
      dsimp only at h
      cases hlength : decodeQuicVarint (buffer.drop r.2) with
      | none =>
          rw [hlength] at h
          cases h
      | some r' =>
          have hle := (decodeQuicVarint_spec hlength).2.2
          rw [hlength] at h
          dsimp only at h
          split_ifs at h
          cases h
          rw [List.length_take]
          exact (Nat.min_le_left _ _).trans hle

/-- The stream data of a reading is no longer than `size`. -/
def DataWithin (size : Nat) : Reading → Prop
  | .received (.stream _ _ data) => data.length ≤ size
  | _ => True

theorem varint_dataWithin {size : Nat} {data : Bytes} {next : Nat → Nat → Reading}
    (h : ∀ value len, DataWithin size (next value len)) :
    DataWithin size (.varint data next) := by
  unfold Reading.varint
  cases decodeQuicVarint data with
  | none => trivial
  | some r => exact h r.1 r.2

theorem verifyEnd_dataWithin {size offset length : Nat} {next : Reading}
    (h : DataWithin size next) : DataWithin size (.verifyEnd offset length next) := by
  unfold Reading.verifyEnd
  split_ifs
  · exact h
  · trivial

/-- Stream data is a part of its payload. -/
theorem readPayload_dataWithin (type : Nat) (payload : Bytes) :
    DataWithin payload.length (readPayload type payload) := by
  have hpart : ∀ (fin : Bool) (streamId n : Nat),
      DataWithin payload.length (.received (.stream fin streamId (payload.drop n))) := by
    intro fin streamId n
    change (payload.drop n).length ≤ payload.length
    rw [List.length_drop]
    exact Nat.sub_le _ _
  unfold readPayload
  cases CapsuleType.ofNat? type with
  | none => trivial
  | some t =>
      cases t with
      | wtStream => exact varint_dataWithin fun sid n => hpart false sid n
      | wtStreamFin => exact varint_dataWithin fun sid n => hpart true sid n
      | wtResetStream =>
          refine varint_dataWithin fun sid n1 => varint_dataWithin fun code n2 => ?_
          split_ifs
          · trivial
          · exact varint_dataWithin fun size n3 => verifyEnd_dataWithin trivial
      | wtStopSending =>
          refine varint_dataWithin fun sid n1 => varint_dataWithin fun code n2 =>
            verifyEnd_dataWithin ?_
          split_ifs <;> trivial
      | wtMaxData => exact varint_dataWithin fun value n1 => verifyEnd_dataWithin trivial
      | wtMaxStreamData =>
          exact varint_dataWithin fun sid n1 => varint_dataWithin fun value n2 =>
            verifyEnd_dataWithin trivial
      | wtMaxStreamsBidi => exact varint_dataWithin fun value n1 => verifyEnd_dataWithin trivial
      | wtMaxStreamsUni => exact varint_dataWithin fun value n1 => verifyEnd_dataWithin trivial
      | wtDataBlocked => exact varint_dataWithin fun value n1 => verifyEnd_dataWithin trivial
      | wtStreamDataBlocked =>
          exact varint_dataWithin fun sid n1 => varint_dataWithin fun value n2 =>
            verifyEnd_dataWithin trivial
      | wtStreamsBlockedBidi => exact varint_dataWithin fun value n1 => verifyEnd_dataWithin trivial
      | wtStreamsBlockedUni => exact varint_dataWithin fun value n1 => verifyEnd_dataWithin trivial
      | wtCloseSession =>
          dsimp only
          split_ifs <;> trivial
      | wtDrainSession => exact verifyEnd_dataWithin trivial
      | datagram => trivial
      | padding => trivial

/-- The capsule at the head of the buffer carries stream data. -/
def DataAhead (config : H2SessionConfig) (w : WtSessionInfo) (fin : Bool) (streamId : Nat)
    (data : Bytes) : Prop :=
  ∃ type payload rest, readHead config w.capsuleBuffer = .capsule type payload rest ∧
    readPayload type payload = .received (.stream fin streamId data)

/-- The data fits what is left of both windows. -/
def FitsWindows (w : WtSessionInfo) (info : WtStreamInfo) (data : Bytes) : Prop :=
  w.bytesReceived + data.length ≤ w.maxDataRemote ∧
    info.bytesReceived + data.length ≤ info.maxStreamDataRemote

instance (w : WtSessionInfo) (info : WtStreamInfo) (data : Bytes) :
    Decidable (w.FitsWindows info data) := by
  unfold FitsWindows
  infer_instance

/-- The bytes counted for a stream, none before it is created. -/
def receivedOn (w : WtSessionInfo) (streamId : Nat) : Nat :=
  match w.streams.find? streamId with
  | none => 0
  | some info => info.bytesReceived

/-- The bytes counted for the session and for each stream. -/
def received (w : WtSessionInfo) : Nat × (Nat → Option Nat) :=
  (w.bytesReceived, fun streamId => (w.streams.find? streamId).map (·.bytesReceived))

theorem DataAhead.length_le {config : H2SessionConfig} {w : WtSessionInfo} {fin : Bool}
    {streamId : Nat} {data : Bytes} (h : DataAhead config w fin streamId data) :
    data.length ≤ kMaxQuicVarint := by
  rcases h with ⟨type, payload, rest, hhead, hread⟩
  have hwithin := readPayload_dataWithin type payload
  rw [hread] at hwithin
  exact le_trans hwithin (payload_length_le hhead)

end WtSessionInfo

namespace SessionScope

open WtSessionInfo (DataAhead FitsWindows)

/-- The session goes on. -/
def Alive (sc : SessionScope) : Prop := ∃ w, sc.entry = some w ∧ w.isTerminated = false

variable {isServer : Bool} {config : H2SessionConfig} {sc : SessionScope} {w : WtSessionInfo}
  {fin : Bool} {streamId : Nat} {data : Bytes} {info : WtStreamInfo}

/-- The turn that processes stream data for a stream that is there accepts exactly what fits both
windows, and a refusal counts nothing. -/
theorem loopTurn_data (hsound : Sound isServer sc) (hconfig : sc.config = config)
    (hentry : sc.entry = some w) (hlive : w.isTerminated = false)
    (hahead : DataAhead config w fin streamId data)
    (hknown : w.streams.find? streamId = some info) :
    ∃ sc', sc.loopTurn = .again sc' ∧
      (isReceivableDataCapsule streamId isServer = true → info.recvState = .recv →
        (sc'.Alive ↔ w.FitsWindows info data)) ∧
      (¬ sc'.Alive → ∃ w', sc'.entry = some w' ∧ w'.received = w.received) := by
  rcases hahead with ⟨type, payload, rest, hhead, hread⟩
  let w₁ := w.withBuffer rest
  let sc₁ := ((sc.setEntry w₁).perform (.dispatch type payload)).perform
    (.consumeRecvBytes (w.capsuleBuffer.length - rest.length))
  have hturn : sc.loopTurn = .again (sc₁.carryOut
      (w₁.judge config isServer (.stream fin streamId data))) := by
    have hentry₁ : sc₁.entry = some w₁ := rfl
    have hreceive := receive_eq hentry₁ (.stream fin streamId data)
    have hrole : sc₁.isServer = isServer := hsound.1
    have hconfig₁ : sc₁.config = config := hconfig
    rw [hrole, hconfig₁] at hreceive
    rw [loopTurn_live hentry hlive, hconfig, hhead]
    dsimp only
    rw [processCapsule, handleCapsule_eq rfl, hread]
    exact congrArg LoopTurn.again hreceive
  have hwf : WtSessionInfo.Wf isServer w₁ :=
    WtSessionInfo.wf_of_streams (hsound.2 w hentry) rfl (hsound.2 w hentry).sent_le
  -- Every refusal ends the session and leaves the counters.
  have hrefuse : ∀ event errorCode message,
      (sc₁.carryOut (.refuse w₁ event errorCode message)).entry = some w₁.ended := by
    intro event errorCode message
    simp only [carryOut, closeSession, w₁, hlive, WtSessionInfo.withBuffer_isTerminated]
    rfl
  have hover : ∀ event errorCode message,
      ¬ (sc₁.carryOut (.refuse w₁ event errorCode message)).Alive := by
    rintro event errorCode message ⟨w', hw', hlive'⟩
    rw [hrefuse] at hw'
    cases hw'
    cases hlive'
  refine ⟨_, hturn, ?_, ?_⟩
  · intro hreceivable hstate
    have hknown₁ : w₁.streams.find? streamId = some info := hknown
    have hjudge : w₁.judge config isServer (.stream fin streamId data) =
        w₁.judgeStreamData config info streamId fin data := by
      simp only [WtSessionInfo.judge, WtSessionInfo.judgeStream, hreceivable, hknown₁]
      rfl
    have hnotDone : ¬ (data.length > 0 ∧ info.recvState.recvDone = true) := by
      rintro ⟨-, hdone⟩
      rw [hstate] at hdone
      cases hdone
    rw [hjudge]
    unfold WtSessionInfo.judgeStreamData
    rw [if_neg hnotDone]
    by_cases hcredit : w₁.bytesReceived + data.length > w₁.maxDataRemote ∨
        info.bytesReceived + data.length > info.maxStreamDataRemote
    · rw [if_pos hcredit]
      refine ⟨fun halive => absurd halive (hover _ _ _), ?_⟩
      rintro ⟨hsession, hstream⟩
      rcases hcredit with hlt | hlt
      · exact absurd hsession (not_le.2 hlt)
      · exact absurd hstream (not_le.2 hlt)
    · rw [if_neg hcredit]
      have hfits : w.FitsWindows info data :=
        ⟨not_lt.1 fun hlt => hcredit (Or.inl hlt), not_lt.1 fun hlt => hcredit (Or.inr hlt)⟩
      refine ⟨fun _ => hfits, fun _ => ⟨_, rfl, ?_⟩⟩
      have hstate₁ : data ≠ [] → info.recvState.recvDone = false := fun _ => by rw [hstate]; rfl
      have hanswers : WtSessionInfo.Answers .all config isServer w₁ (.stream fin streamId data)
          (WtSessionInfo.streamEvents fin streamId data)
          (w₁.acceptStreamData config streamId info fin data.length) :=
        WtSessionInfo.acceptStreamData_answers hreceivable (.existing hknown₁) hstate₁
          (fun _ _ => trivial) hfits.1 hfits.2
      rcases hanswers with ⟨ls, hpath, -⟩
      have hstage := (path_keeps hpath hwf).2
      exact (congrArg (fun stage => stage.2.1) hstage).trans hlive
  · intro hdead
    have hends : (w₁.judge config isServer (.stream fin streamId data)).Ends (· = w₁) := by
      refine WtSessionInfo.judge_ends (P := (· = w₁)) rfl (.stream fin streamId data) ?_
      intro streamId' hdata _ hnone _
      cases hdata
      have hnone' : w.streams.find? streamId = none := hnone
      rw [hknown] at hnone'
      cases hnone'
    cases hjudge : w₁.judge config isServer (.stream fin streamId data) with
    | refuse w' event errorCode message =>
        rw [hjudge] at hends
        rcases hends with ⟨rfl, -⟩
        exact ⟨_, hrefuse event errorCode message, rfl⟩
    | accept before q after =>
        rw [hjudge] at hdead
        have hadmits := Permits.all_admits isServer w₁ (.stream fin streamId data)
        have hanswers := WtSessionInfo.judge_answers hwf hadmits hjudge
        rcases hanswers with ⟨ls, hpath, -⟩
        have hstage := (path_keeps hpath hwf).2
        exact absurd ⟨q.1, rfl, (congrArg (fun stage => stage.2.1) hstage).trans hlive⟩ hdead
    | close event =>
        have hknown₁ : w₁.streams.find? streamId = some info := hknown
        simp only [WtSessionInfo.judge, WtSessionInfo.judgeStream, hknown₁,
          WtSessionInfo.judgeStreamData] at hjudge
        split_ifs at hjudge <;> cases hjudge

end SessionScope

namespace H2Session

open SessionScope (Alive)
open WtSessionInfo (DataAhead FitsWindows)

variable {isServer : Bool} {config : H2SessionConfig} {s : H2Session} {sessionId : Int}

/-- The windows given to the peer, in every state of every run and behind every processed capsule
of a session that is not terminated.  The counts stay within the limits and half of each initial
window is left (of a stream until WT_STOP_SENDING is sent on it).  Stream data for a stream that is
there, that the peer may send on and that is in state Recv is accepted if and only if it fits both
windows; a refusal changes no counter; and the sums stay below `2^64`. -/
theorem recv_windows_stay_open (h : create isServer config = .ok s) {inputs : List Input}
    {sc : SessionScope} (hpasses : s.Passes sessionId inputs sc) {w : WtSessionInfo}
    (hentry : sc.entry = some w) (hlive : w.isTerminated = false) :
    (w.bytesReceived ≤ w.maxDataRemote ∧
      (0 < config.wtInitialMaxData → w.maxDataRemote = kMaxQuicVarint ∨
        (config.wtInitialMaxData + 1) / 2 ≤ w.maxDataRemote - w.bytesReceived)) ∧
    (∀ streamId info, w.streams.find? streamId = some info →
      info.bytesReceived ≤ info.maxStreamDataRemote ∧
      (streamId ∉ w.sentStopSendingStreamIds → 0 < config.wtInitialMaxStreamData →
        info.maxStreamDataRemote = kMaxQuicVarint ∨
          (config.wtInitialMaxStreamData + 1) / 2 ≤
            info.maxStreamDataRemote - info.bytesReceived)) ∧
    ∀ fin streamId data, DataAhead config w fin streamId data →
      w.bytesReceived + data.length + config.wtInitialMaxData < 2 ^ 64 ∧
      w.receivedOn streamId + data.length + config.wtInitialMaxStreamData < 2 ^ 64 ∧
      ∀ info, w.streams.find? streamId = some info →
        ∃ sc', sc.loopTurn = .again sc' ∧
          (isReceivableDataCapsule streamId isServer = true → info.recvState = .recv →
            (sc'.Alive ↔ w.FitsWindows info data)) ∧
          (¬ sc'.Alive → ∃ w', sc'.entry = some w' ∧ w'.received = w.received) := by
  rcases H2SessionConfig.check_ok (check_of_create h) with ⟨hdata, hstreamData, -, -⟩
  have hsettings : kMaxSettingsValue ≤ kMaxQuicVarint := by decide
  have hmax : kMaxQuicVarint = 2 ^ 62 - 1 := rfl
  have hmaxSettings : kMaxSettingsValue = 2 ^ 32 - 1 := rfl
  have hlasting := @WtSessionInfo.windowed_lasting config isServer
    (hdata.trans hsettings) (hstreamData.trans hsettings)
  have hholding := passes_holding hlasting h (keepsTo_all s sessionId inputs) hpasses
  have hw := hholding.entry w hentry
  refine ⟨⟨hw.within.received_le, hw.halfOpen⟩, ?_, ?_⟩
  · intro streamId info hfind
    have hstream := hw.stream hfind
    exact ⟨hstream.within.received_le, hstream.halfOpen⟩
  · intro fin streamId data hahead
    have hlength := hahead.length_le
    have hsession := hw.within.received_le.trans hw.within.limit_le
    have hstream : w.receivedOn streamId ≤ kMaxQuicVarint := by
      unfold WtSessionInfo.receivedOn
      cases hfind : w.streams.find? streamId with
      | none => exact Nat.zero_le _
      | some info =>
          have hwithin := (hw.stream hfind).within
          exact hwithin.received_le.trans hwithin.limit_le
    refine ⟨by omega, by omega, ?_⟩
    intro info hknown
    exact SessionScope.loopTurn_data hholding.sound hholding.config_eq hentry hlive hahead hknown

/-- A WT_STREAM capsule with one byte for the stream 0. -/
def oneByte : Bytes := encodeCapsule CapsuleType.wtStream.toNat (varintBytes 0 ++ [7])

theorem recv_windows_stay_open_one_byte :
    ∃ w, ((run { isServer := true, config := {} }
        (openSession 1 ++ [.recvData 1 oneByte none])).scope 1).entry = some w ∧
      w.bytesReceived = 1 ∧ w.bytesReceived ≤ w.maxDataRemote := by
  have hcreate : create true {} = .ok { isServer := true, config := {} } := rfl
  have hstate : ((run { isServer := true, config := {} }
      (openSession 1 ++ [.recvData 1 oneByte none])).scope 1).entry.any
        (fun w => !w.isTerminated && w.bytesReceived == 1) = true := by decide +kernel
  rcases (Option.any_eq_true _ _).1 hstate with ⟨w, hentry, hw⟩
  rw [Bool.and_eq_true, Bool.not_eq_true', beq_iff_eq] at hw
  have hopen := recv_windows_stay_open hcreate (passes_last _ 1 _) hentry hw.1
  exact ⟨w, hentry, hw.2, hopen.1.1⟩

/-- A server that may open one unidirectional stream, and has opened it. -/
def openedUni : List Input :=
  .recvSettingsEntry 0x2b64 1 :: openSession 1 ++ [.openStream 1 true]

/-- The peer sends one byte on it. -/
def onSendOnly : Bytes := encodeCapsule CapsuleType.wtStream.toNat (varintBytes 3 ++ [7])

/-- The receiving half of a stream opened here in one direction is never used and stays in state
Recv.  Its windows have room, and yet stream data for it ends the session. -/
theorem send_only_refused :
    create true {} = .ok { isServer := true, config := {} } ∧
    ∃ sc w info sc', Passes { isServer := true, config := {} } 1 openedUni sc ∧
      sc.entry = some w ∧ w.isTerminated = false ∧ DataAhead {} w false 3 [7] ∧
      w.streams.find? 3 = some info ∧ info.recvState = .recv ∧ w.FitsWindows info [7] ∧
      sc.loopTurn = .again sc' ∧ ¬ sc'.Alive := by
  refine ⟨rfl, ?_⟩
  let sc := ((run { isServer := true, config := {} } openedUni).scope 1).appendBuffer onSendOnly
  have hstate : sc.entry.any (fun w => !w.isTerminated &&
      decide (SessionScope.readHead {} w.capsuleBuffer =
        .capsule CapsuleType.wtStream.toNat (varintBytes 3 ++ [7]) []) &&
      (w.streams.find? 3).any fun info =>
        decide (info.recvState = .recv) && decide (w.FitsWindows info [7])) = true := by
    decide +kernel
  have hread : readPayload CapsuleType.wtStream.toNat (varintBytes 3 ++ [7]) =
      .received (.stream false 3 [7]) := by decide +kernel
  have hover : (match sc.loopTurn with
      | .again sc' => sc'.entry.any (·.isTerminated)
      | .stop _ => false) = true := by decide +kernel
  rcases (Option.any_eq_true _ _).1 hstate with ⟨w, hentry, hw⟩
  simp only [Bool.and_eq_true, Bool.not_eq_true', decide_eq_true_eq] at hw
  rcases hw with ⟨⟨hlive, hhead⟩, hstream⟩
  rcases (Option.any_eq_true _ _).1 hstream with ⟨info, hknown, hinfo⟩
  rw [Bool.and_eq_true, decide_eq_true_eq, decide_eq_true_eq] at hinfo
  have hpasses : Passes { isServer := true, config := {} } 1 openedUni sc :=
    passes_data _ 1 openedUni onSendOnly
  cases hturn : sc.loopTurn with
  | stop sc' =>
      rw [hturn] at hover
      cases hover
  | again sc' =>
      rw [hturn] at hover
      refine ⟨sc, w, info, sc', hpasses, hentry, hlive, ⟨_, _, _, hhead, hread⟩, hknown, hinfo.1,
        hinfo.2, hturn, ?_⟩
      rintro ⟨w', hw', hlive'⟩
      rcases (Option.any_eq_true _ _).1 hover with ⟨w'', hw'', hterm⟩
      rw [hw'] at hw''
      cases hw''
      rw [hlive'] at hterm
      cases hterm

end H2Session

end H2
end WebTransport
