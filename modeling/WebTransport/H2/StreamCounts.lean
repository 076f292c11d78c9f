import WebTransport.Data.Quota
import WebTransport.H2.StreamTable

/-!
# H2.StreamCounts — how many streams the peer may open

`max_streams_bidi_remote` and `max_streams_uni_remote` limit the streams of the peer by their index.
A release raises the limit by one, and `released_stream_ids` keeps the peer from using a released id
again.  For each direction the entry is a `Quota`: implicit creation admits an id, a release gives
it back.

* `quota`             : the quota of a direction;
* `Counts`            : what holds of the table while the record of released ids has room;
* `counts_rule`       : every operation but `open_stream` keeps it;
* `Reopens`           : the call of `open_stream` that gives a released id out again;
* `stream_counts_iff` : the limits are exact in every state of a run, and no released id comes
  back, if and only if the run has no such call.
-/

namespace WebTransport
namespace H2

open Bindings

/-- The peer opened the stream, in the given direction. -/
def peerInitiated (isServer isUni : Bool) (streamId : Nat) : Bool :=
  isUniId streamId == isUni && !(isServerId streamId == isServer)

/-- Ids of one direction and one initiator are told apart by their index. -/
theorem index_injOn (isServer isUni : Bool) :
    Set.InjOn (· / 4) {streamId | peerInitiated isServer isUni streamId = true} := by
  intro a ha b hb heq
  simp only [peerInitiated, Set.mem_ofPred_eq, Bool.and_eq_true, Bool.not_eq_true',
    beq_iff_eq, beq_eq_false_iff_ne, ne_eq] at ha hb
  have huni : isUniId a = isUniId b := ha.1.trans hb.1.symm
  have hserver : isServerId a = isServerId b := by
    rcases ha with ⟨-, ha⟩
    rcases hb with ⟨-, hb⟩
    cases ha' : isServerId a <;> cases hb' : isServerId b <;> cases isServer <;> simp_all
  simp only [isUniId, isServerId, decide_eq_decide] at huni hserver
  have heq' : a / 4 = b / 4 := heq
  omega

/-- The configured number of streams of a direction. -/
def H2SessionConfig.initialStreams (config : H2SessionConfig) (isUni : Bool) : Nat :=
  if isUni then config.wtInitialMaxStreamsUni else config.wtInitialMaxStreamsBidi

namespace WtSessionInfo

/-- The live streams of the peer in a direction. -/
def liveFrom (isServer isUni : Bool) (w : WtSessionInfo) : Finset Nat :=
  w.streams.keys.toFinset.filter (peerInitiated isServer isUni ·)

/-- The released streams of the peer in a direction. -/
def releasedFrom (isServer isUni : Bool) (w : WtSessionInfo) : Finset Nat :=
  w.releasedStreamIds.filter (peerInitiated isServer isUni ·)

/-- `max_streams_uni_remote` or `max_streams_bidi_remote` -/
def maxStreamsRemote (isUni : Bool) (w : WtSessionInfo) : Nat :=
  if isUni then w.maxStreamsUniRemote else w.maxStreamsBidiRemote

/-- The quota of the peer in a direction. -/
def quota (isServer isUni : Bool) (w : WtSessionInfo) : Quota Nat :=
  ⟨w.liveFrom isServer isUni, w.releasedFrom isServer isUni, w.maxStreamsRemote isUni⟩

section Members

variable {isServer isUni : Bool} {w w' : WtSessionInfo} {streamId : Nat}

theorem mem_liveFrom : streamId ∈ w.liveFrom isServer isUni ↔
    w.streams.find? streamId ≠ none ∧ peerInitiated isServer isUni streamId = true := by
  unfold liveFrom
  rw [Finset.mem_filter, List.mem_toFinset, OrdMap.mem_keys_iff, Option.ne_none_iff_exists']

theorem mem_releasedFrom : streamId ∈ w.releasedFrom isServer isUni ↔
    streamId ∈ w.releasedStreamIds ∧ peerInitiated isServer isUni streamId = true :=
  Finset.mem_filter

/-- Entries with the same streams of the peer have the same quota. -/
theorem quota_congr
    (hlive : ∀ id, peerInitiated isServer isUni id = true →
      (w'.streams.find? id = none ↔ w.streams.find? id = none))
    (hreleased : ∀ id, peerInitiated isServer isUni id = true →
      (id ∈ w'.releasedStreamIds ↔ id ∈ w.releasedStreamIds))
    (hlimit : w'.maxStreamsRemote isUni = w.maxStreamsRemote isUni) :
    w'.quota isServer isUni = w.quota isServer isUni := by
  have hliveFrom : w'.liveFrom isServer isUni = w.liveFrom isServer isUni := by
    ext id
    rw [mem_liveFrom, mem_liveFrom]
    constructor
    · rintro ⟨hfind, hpeer⟩
      exact ⟨fun hnone => hfind ((hlive id hpeer).2 hnone), hpeer⟩
    · rintro ⟨hfind, hpeer⟩
      exact ⟨fun hnone => hfind ((hlive id hpeer).1 hnone), hpeer⟩
  have hreleasedFrom : w'.releasedFrom isServer isUni = w.releasedFrom isServer isUni := by
    ext id
    rw [mem_releasedFrom, mem_releasedFrom]
    constructor
    · rintro ⟨hmem, hpeer⟩
      exact ⟨(hreleased id hpeer).1 hmem, hpeer⟩
    · rintro ⟨hmem, hpeer⟩
      exact ⟨(hreleased id hpeer).2 hmem, hpeer⟩
  unfold quota
  rw [hliveFrom, hreleasedFrom, hlimit]

end Members

/-! ## The table -/

/-- The id was in use and is no more: it is recorded, or it belongs to a stream that only this side
sends on and that was opened before. -/
def Released (isServer : Bool) (w : WtSessionInfo) (streamId : Nat) : Prop :=
  streamId ∈ w.releasedStreamIds ∨
    isReceivableDataCapsule streamId isServer = false ∧ streamId / 4 < w.nextUniStreamId ∧
      w.streams.find? streamId = none

/-- What holds of the table of streams while the record of released ids has room. -/
structure Counts (config : H2SessionConfig) (isServer : Bool) (w : WtSessionInfo) : Prop where
  flags : ∀ ⦃streamId : Nat⦄ ⦃info : WtStreamInfo⦄, w.streams.find? streamId = some info →
    info.flags = (isServerId streamId == isServer, isUniId streamId)
  kept : ∀ isUni, Quota.Kept {streamId | peerInitiated isServer isUni streamId = true} (· / 4)
    kMaxStreamsLimit (config.initialStreams isUni) (w.quota isServer isUni)
  apart : ∀ streamId ∈ w.releasedStreamIds, w.streams.find? streamId = none
  recorded : ∀ streamId ∈ w.releasedStreamIds, isReceivableDataCapsule streamId isServer = true
  opened : ∀ streamId, w.streams.find? streamId ≠ none →
    isReceivableDataCapsule streamId isServer = false → streamId / 4 < w.nextUniStreamId

/-- The same, the ids of `S` were released, and those of `U` are live or were released. -/
def Keeps (config : H2SessionConfig) (isServer : Bool) (U S : Set Nat) (w : WtSessionInfo) : Prop :=
  w.releasedStreamIds.card < kMaxReceivedMapEntries →
    Counts config isServer w ∧ (∀ streamId ∈ S, Released isServer w streamId) ∧
      ∀ streamId ∈ U, w.streams.find? streamId ≠ none ∨ Released isServer w streamId

section Rule

variable {config : H2SessionConfig} {isServer : Bool} {U S : Set Nat} {w w' : WtSessionInfo}
  {streamId : Nat} {info info' : WtStreamInfo}

/-- No released id is live. -/
theorem Counts.not_live (h : Counts config isServer w) (hreleased : Released isServer w streamId) :
    w.streams.find? streamId = none := by
  rcases hreleased with hmem | ⟨-, -, hnone⟩
  · exact h.apart streamId hmem
  · exact hnone

/-- The counter of opened streams may move on. -/
theorem keeps_later (hstreams : w'.streams = w.streams)
    (hreleased : w'.releasedStreamIds = w.releasedStreamIds)
    (hlimit : ∀ isUni, w'.maxStreamsRemote isUni = w.maxStreamsRemote isUni)
    (hnext : w.nextUniStreamId ≤ w'.nextUniStreamId) (h : Keeps config isServer U S w) :
    Keeps config isServer U S w' := by
  intro hfew
  rw [hreleased] at hfew
  rcases h hfew with ⟨hcounts, hS, hU⟩
  have hstill : ∀ id, Released isServer w id → Released isServer w' id := by
    intro id hid
    unfold Released
    rw [hstreams, hreleased]
    rcases hid with hmem | ⟨hsend, hindex, hnone⟩
    · exact Or.inl hmem
    · exact Or.inr ⟨hsend, hindex.trans_le hnext, hnone⟩
  refine ⟨⟨?_, ?_, ?_, ?_, ?_⟩, fun id hid => hstill id (hS id hid), ?_⟩
  · rw [hstreams]
    exact hcounts.flags
  · intro isUni
    have hquota : w'.quota isServer isUni = w.quota isServer isUni :=
      quota_congr (fun id _ => by rw [hstreams]) (fun id _ => by rw [hreleased]) (hlimit isUni)
    rw [hquota]
    exact hcounts.kept isUni
  · rw [hstreams, hreleased]
    exact hcounts.apart
  · rw [hreleased]
    exact hcounts.recorded
  · rw [hstreams]
    exact fun id hlive hsend => (hcounts.opened id hlive hsend).trans_le hnext
  · intro id hid
    rw [hstreams]
    exact (hU id hid).imp_right (hstill id)

theorem keeps_beside (htable : w'.table = w.table) (h : Keeps config isServer U S w) :
    Keeps config isServer U S w' := by
  simp only [table, Prod.mk.injEq] at htable
  rcases htable with ⟨hstreams, hreleased, hbidi, huni, -, hnextUni⟩
  refine keeps_later hstreams hreleased ?_ hnextUni.ge h
  intro isUni
  unfold maxStreamsRemote
  rw [hbidi, huni]

/-- A written entry is there, whatever it says. -/
theorem find?_setStream_none (w : WtSessionInfo) (streamId id : Nat) (info : WtStreamInfo) :
    (w.setStream streamId info).streams.find? id = none ↔
      id ≠ streamId ∧ w.streams.find? id = none := by
  rw [find?_setStream]
  split_ifs with heq
  · simp [heq]
  · simp [heq]

theorem keeps_rewrite (hfind : w.streams.find? streamId = some info)
    (hflags : info'.flags = info.flags) (h : Keeps config isServer U S w) :
    Keeps config isServer U S (w.setStream streamId info') := by
  have hsame : ∀ id, (w.setStream streamId info').streams.find? id = none ↔
      w.streams.find? id = none := by
    intro id
    rw [find?_setStream_none]
    refine ⟨fun hboth => hboth.2, fun hnone => ⟨?_, hnone⟩⟩
    rintro rfl
    rw [hfind] at hnone
    cases hnone
  intro hfew
  rcases h hfew with ⟨hcounts, hS, hU⟩
  have hstill : ∀ id, Released isServer w id →
      Released isServer (w.setStream streamId info') id := by
    rintro id (hmem | ⟨hsend, hindex, hnone⟩)
    · exact Or.inl hmem
    · exact Or.inr ⟨hsend, hindex, (hsame id).2 hnone⟩
  refine ⟨⟨?_, ?_, ?_, hcounts.recorded, ?_⟩, fun id hid => hstill id (hS id hid), ?_⟩
  · intro id info'' hfind'
    rw [find?_setStream] at hfind'
    split_ifs at hfind' with heq
    · cases hfind'
      rw [heq, hflags]
      exact hcounts.flags hfind
    · exact hcounts.flags hfind'
  · intro isUni
    have hquota : (w.setStream streamId info').quota isServer isUni = w.quota isServer isUni :=
      quota_congr (fun id _ => hsame id) (fun id _ => Iff.rfl) rfl
    rw [hquota]
    exact hcounts.kept isUni
  · intro id hid
    exact (hsame id).2 (hcounts.apart id hid)
  · intro id hlive
    exact hcounts.opened id fun hnone => hlive ((hsame id).2 hnone)
  · intro id hid
    exact (hU id hid).imp (fun hlive hnone => hlive ((hsame id).1 hnone)) (hstill id)

/-- A stream that was not there is written, with the flags of its id. -/
theorem keeps_new (hnone : w.streams.find? streamId = none)
    (hreleased : streamId ∉ w.releasedStreamIds)
    (hflags : info.flags = (isServerId streamId == isServer, isUniId streamId))
    (hlimit : ∀ isUni, peerInitiated isServer isUni streamId = true →
      streamId / 4 < w.maxStreamsRemote isUni)
    (hopened : isReceivableDataCapsule streamId isServer = false →
      streamId / 4 < w.nextUniStreamId)
    (hfresh : w.releasedStreamIds.card < kMaxReceivedMapEntries → streamId ∉ S)
    (h : Keeps config isServer U S w) : Keeps config isServer U S (w.setStream streamId info) := by
  intro hfew
  rcases h hfew with ⟨hcounts, hS, hU⟩
  have hstill : ∀ id, id ≠ streamId → Released isServer w id →
      Released isServer (w.setStream streamId info) id := by
    rintro id hne (hmem | ⟨hsend, hindex, hnone'⟩)
    · exact Or.inl hmem
    · exact Or.inr ⟨hsend, hindex, (find?_setStream_none w streamId id info).2 ⟨hne, hnone'⟩⟩
  refine ⟨⟨?_, ?_, ?_, hcounts.recorded, ?_⟩, ?_, ?_⟩
  · intro id info' hfind
    rw [find?_setStream] at hfind
    split_ifs at hfind with heq
    · cases hfind
      rw [heq]
      exact hflags
    · exact hcounts.flags hfind
  · intro isUni
    cases hpeer : peerInitiated isServer isUni streamId with
    | false =>
        have hquota : (w.setStream streamId info).quota isServer isUni = w.quota isServer isUni := by
          refine quota_congr ?_ (fun id _ => Iff.rfl) rfl
          intro id hid
          rw [find?_setStream_none]
          refine ⟨fun hboth => hboth.2, fun hid' => ⟨?_, hid'⟩⟩
          rintro rfl
          rw [hpeer] at hid
          cases hid
        rw [hquota]
        exact hcounts.kept isUni
    | true =>
        have hlive : streamId ∉ w.liveFrom isServer isUni := fun hmem =>
          (mem_liveFrom.1 hmem).1 hnone
        have hnot : streamId ∉ w.releasedFrom isServer isUni := fun hmem =>
          hreleased (mem_releasedFrom.1 hmem).1
        have hinsert : (w.setStream streamId info).liveFrom isServer isUni =
            insert streamId (w.liveFrom isServer isUni) := by
          ext id
          rw [Finset.mem_insert, mem_liveFrom, mem_liveFrom, ne_eq, find?_setStream_none]
          by_cases heq : id = streamId
          · simp [heq, hpeer]
          · simp [heq]
        have hquota : (w.setStream streamId info).quota isServer isUni =
            { w.quota isServer isUni with
              live := insert streamId (w.quota isServer isUni).live } := by
          unfold quota
          rw [hinsert]
          rfl
        have hstep : Quota.Step {id | peerInitiated isServer isUni id = true} (· / 4)
            kMaxStreamsLimit (w.quota isServer isUni)
            ((w.setStream streamId info).quota isServer isUni) := by
          rw [hquota]
          exact .enter hpeer hlive hnot (hlimit isUni hpeer)
        exact hstep.kept (hcounts.kept isUni)
  · intro id hid
    rw [find?_setStream_none]
    refine ⟨?_, hcounts.apart id hid⟩
    rintro rfl
    exact hreleased hid
  · intro id hlive hsend
    by_cases heq : id = streamId
    · rw [heq] at hsend ⊢
      exact hopened hsend
    · refine hcounts.opened id (fun hnone' => hlive ?_) hsend
      rw [find?_setStream_none]
      exact ⟨heq, hnone'⟩
  · intro id hid
    refine hstill id ?_ (hS id hid)
    rintro rfl
    exact hfresh hfew hid
  · intro id hid
    by_cases heq : id = streamId
    · refine Or.inl fun hgone => ?_
      exact ((find?_setStream_none w streamId id info).1 hgone).1 heq
    · refine (hU id hid).imp (fun hlive hgone => hlive ?_) (hstill id heq)
      exact ((find?_setStream_none w streamId id info).1 hgone).2

/-! ### Releasing a stream -/

/-- One more stream of the direction, below the cap. -/
theorem replenishStreams_fst (isUni : Bool) (w : WtSessionInfo) :
    (w.replenishStreams isUni).1.streams = w.streams ∧
      (w.replenishStreams isUni).1.nextUniStreamId = w.nextUniStreamId ∧
      (w.replenishStreams isUni).1.releasedStreamIds = w.releasedStreamIds ∧
      ∀ isUni', (w.replenishStreams isUni).1.maxStreamsRemote isUni' =
        if isUni = isUni' ∧ w.maxStreamsRemote isUni' < kMaxStreamsLimit then
          w.maxStreamsRemote isUni' + 1
        else w.maxStreamsRemote isUni' := by
  unfold replenishStreams
  cases isUni with
  | true =>
      rw [if_pos rfl]
      by_cases hcap : w.maxStreamsUniRemote < kMaxStreamsLimit
      · rw [if_pos hcap]
        refine ⟨rfl, rfl, rfl, ?_⟩
        rintro (_ | _)
        · exact (if_neg (by simp)).symm
        · exact (if_pos ⟨rfl, hcap⟩).symm
      · rw [if_neg hcap]
        refine ⟨rfl, rfl, rfl, ?_⟩
        rintro (_ | _)
        · exact (if_neg (by simp)).symm
        · exact (if_neg fun hboth => hcap hboth.2).symm
  | false =>
      rw [if_neg (by decide)]
      by_cases hcap : w.maxStreamsBidiRemote < kMaxStreamsLimit
      · rw [if_pos hcap]
        refine ⟨rfl, rfl, rfl, ?_⟩
        rintro (_ | _)
        · exact (if_pos ⟨rfl, hcap⟩).symm
        · exact (if_neg (by simp)).symm
      · rw [if_neg hcap]
        refine ⟨rfl, rfl, rfl, ?_⟩
        rintro (_ | _)
        · exact (if_neg fun hboth => hcap hboth.2).symm
        · exact (if_neg (by simp)).symm

/-- The id is recorded where the peer could send on it. -/
theorem dropStream_released (hroom : w.releasedStreamIds.card < kMaxReceivedMapEntries)
    (hflags : info.flags = (isServerId streamId == isServer, isUniId streamId)) :
    (w.dropStream streamId info).releasedStreamIds =
      if isReceivableDataCapsule streamId isServer then insert streamId w.releasedStreamIds
        else w.releasedStreamIds := by
  simp only [WtStreamInfo.flags, Prod.mk.injEq] at hflags
  unfold dropStream isReceivableDataCapsule
  rw [hflags.1, hflags.2]
  cases isUniId streamId <;> cases isServerId streamId == isServer <;> simp [hroom]

/-- A release records no fewer ids. -/
theorem dropStream_card (w : WtSessionInfo) (streamId : Nat) (info : WtStreamInfo) :
    w.releasedStreamIds.card ≤ (w.dropStream streamId info).releasedStreamIds.card := by
  unfold dropStream
  dsimp only
  split_ifs
  · exact Finset.card_le_card (Finset.subset_insert _ _)
  · exact le_rfl

/-- The entry is gone, the id is recorded where the peer could send on it, and a stream of the peer
is given back. -/
theorem releaseStream_eq (hroom : w.releasedStreamIds.card < kMaxReceivedMapEntries)
    (hflags : info.flags = (isServerId streamId == isServer, isUniId streamId)) :
    (w.releaseStream streamId info).streams = w.streams.erase streamId ∧
      (w.releaseStream streamId info).nextUniStreamId = w.nextUniStreamId ∧
      (w.releaseStream streamId info).releasedStreamIds =
        (if isReceivableDataCapsule streamId isServer then insert streamId w.releasedStreamIds
          else w.releasedStreamIds) ∧
      ∀ isUni, (w.releaseStream streamId info).maxStreamsRemote isUni =
        if peerInitiated isServer isUni streamId = true ∧
            w.maxStreamsRemote isUni < kMaxStreamsLimit then
          w.maxStreamsRemote isUni + 1
        else w.maxStreamsRemote isUni := by
  have hdrop := dropStream_released hroom hflags
  simp only [WtStreamInfo.flags, Prod.mk.injEq] at hflags
  rcases hflags with ⟨hlocal, huni⟩
  have hpeer : ∀ isUni, peerInitiated isServer isUni streamId =
      (isUniId streamId == isUni && !info.isLocal) := by
    intro isUni
    rw [hlocal]
    rfl
  unfold releaseStream
  cases hcase : info.isLocal with
  | true =>
      rw [if_pos rfl]
      refine ⟨rfl, rfl, hdrop, ?_⟩
      intro isUni
      rw [hpeer, hcase]
      exact (if_neg (by simp)).symm
  | false =>
      rw [if_neg (by decide), huni]
      rcases replenishStreams_fst (isUniId streamId) (w.dropStream streamId info) with
        ⟨hstreams, hnext, hreleased, hlimit⟩
      refine ⟨hstreams, hnext, hreleased.trans hdrop, ?_⟩
      intro isUni
      have hsame : (w.dropStream streamId info).maxStreamsRemote isUni =
          w.maxStreamsRemote isUni := rfl
      rw [hlimit, hsame, hpeer, hcase]
      simp

theorem releaseStream_card (w : WtSessionInfo) (streamId : Nat) (info : WtStreamInfo) :
    w.releasedStreamIds.card ≤ (w.releaseStream streamId info).releasedStreamIds.card := by
  have hdrop := dropStream_card w streamId info
  unfold releaseStream
  split_ifs
  · exact hdrop
  · rw [(replenishStreams_fst _ _).2.2.1]
    exact hdrop

/-- A stream of this side changes no quota when it goes, and one of the peer is given back. -/
theorem quota_release (hfind : w.streams.find? streamId = some info)
    (hroom : w.releasedStreamIds.card < kMaxReceivedMapEntries)
    (hflags : info.flags = (isServerId streamId == isServer, isUniId streamId)) (isUni : Bool)
    (hcap : w.maxStreamsRemote isUni ≤ kMaxStreamsLimit) :
    (w.releaseStream streamId info).quota isServer isUni = w.quota isServer isUni ∨
      Quota.Step {id | peerInitiated isServer isUni id = true} (· / 4) kMaxStreamsLimit
        (w.quota isServer isUni) ((w.releaseStream streamId info).quota isServer isUni) := by
  rcases releaseStream_eq hroom hflags with ⟨hstreams, -, hreleased, hlimit⟩
  have hgone : ∀ id, (w.releaseStream streamId info).streams.find? id = none ↔
      id = streamId ∨ w.streams.find? id = none := by
    intro id
    rw [hstreams, OrdMap.find?_erase]
    split_ifs with heq
    · simp [heq]
    · simp [heq]
  cases hpeer : peerInitiated isServer isUni streamId with
  | false =>
      refine Or.inl (quota_congr ?_ ?_ ?_)
      · intro id hid
        rw [hgone]
        refine ⟨fun hor => hor.resolve_left ?_, Or.inr⟩
        rintro rfl
        rw [hpeer] at hid
        cases hid
      · intro id hid
        rw [hreleased]
        split_ifs
        · rw [Finset.mem_insert]
          refine ⟨fun hor => hor.resolve_left ?_, Or.inr⟩
          rintro rfl
          rw [hpeer] at hid
          cases hid
        · exact Iff.rfl
      · rw [hlimit, hpeer, if_neg (by simp)]
  | true =>
      refine Or.inr ?_
      have hlive : streamId ∈ w.liveFrom isServer isUni :=
        mem_liveFrom.2 ⟨by rw [hfind]; exact Option.some_ne_none _, hpeer⟩
      have hreceivable : isReceivableDataCapsule streamId isServer = true := by
        unfold peerInitiated at hpeer
        unfold isReceivableDataCapsule
        split_ifs
        · rfl
        · exact (Bool.and_eq_true_iff.1 hpeer).2
      have herase : (w.releaseStream streamId info).liveFrom isServer isUni =
          (w.liveFrom isServer isUni).erase streamId := by
        ext id
        rw [Finset.mem_erase, mem_liveFrom, mem_liveFrom, ne_eq, hgone]
        tauto
      have hinsert : (w.releaseStream streamId info).releasedFrom isServer isUni =
          insert streamId (w.releasedFrom isServer isUni) := by
        unfold releasedFrom
        rw [hreleased, if_pos hreceivable, Finset.filter_insert, if_pos hpeer]
      have hmore : (w.releaseStream streamId info).maxStreamsRemote isUni =
          min kMaxStreamsLimit (w.maxStreamsRemote isUni + 1) := by
        rw [hlimit, hpeer]
        by_cases hlt : w.maxStreamsRemote isUni < kMaxStreamsLimit
        · rw [if_pos ⟨rfl, hlt⟩]
          exact (Nat.min_eq_right hlt).symm
        · rw [if_neg fun hboth => hlt hboth.2, hcap.antisymm (not_lt.1 hlt)]
          exact (Nat.min_eq_left (Nat.le_succ _)).symm
      unfold quota
      rw [herase, hinsert, hmore]
      exact Quota.Step.giveBack (q := w.quota isServer isUni) hlive

theorem keeps_release (hfind : w.streams.find? streamId = some info)
    (h : Keeps config isServer U S w) :
    Keeps config isServer U S (w.releaseStream streamId info) := by
  intro hfew
  have hroom := (releaseStream_card w streamId info).trans_lt hfew
  rcases h hroom with ⟨hcounts, hS, hU⟩
  have hflags := hcounts.flags hfind
  rcases releaseStream_eq hroom hflags with ⟨hstreams, hnext, hreleased, -⟩
  have hfind' : ∀ id, (w.releaseStream streamId info).streams.find? id =
      if id = streamId then none else w.streams.find? id := by
    intro id
    rw [hstreams, OrdMap.find?_erase]
  have hrecords : ∀ id ∈ w.releasedStreamIds,
      id ∈ (w.releaseStream streamId info).releasedStreamIds := by
    intro id hid
    rw [hreleased]
    split_ifs
    · exact Finset.mem_insert_of_mem hid
    · exact hid
  have hstill : ∀ id, Released isServer w id →
      Released isServer (w.releaseStream streamId info) id := by
    rintro id (hmem | ⟨hsend, hindex, hnone⟩)
    · exact Or.inl (hrecords id hmem)
    · refine Or.inr ⟨hsend, hnext ▸ hindex, ?_⟩
      rw [hfind']
      split_ifs
      · rfl
      · exact hnone
  -- The released stream itself is recorded, or only this side could send on it.
  have hself : Released isServer (w.releaseStream streamId info) streamId := by
    cases hreceivable : isReceivableDataCapsule streamId isServer with
    | true =>
        refine Or.inl ?_
        rw [hreleased, if_pos hreceivable]
        exact Finset.mem_insert_self _ _
    | false =>
        have hlive : w.streams.find? streamId ≠ none := by
          rw [hfind]
          exact Option.some_ne_none _
        refine Or.inr ⟨hreceivable, hnext ▸ hcounts.opened streamId hlive hreceivable, ?_⟩
        rw [hfind', if_pos rfl]
  refine ⟨⟨?_, ?_, ?_, ?_, ?_⟩, fun id hid => hstill id (hS id hid), ?_⟩
  · intro id info' hid
    rw [hfind'] at hid
    split_ifs at hid
    exact hcounts.flags hid
  · intro isUni
    have hkept := hcounts.kept isUni
    have hcap : w.maxStreamsRemote isUni ≤ kMaxStreamsLimit :=
      hkept.limit_eq.le.trans (Nat.min_le_left _ _)
    rcases quota_release hfind hroom hflags isUni hcap with hquota | hstep
    · rw [hquota]
      exact hkept
    · exact hstep.kept hkept
  · intro id hid
    rw [hfind']
    split_ifs with heq
    · rfl
    · refine hcounts.apart id ?_
      rw [hreleased] at hid
      split_ifs at hid
      · exact (Finset.mem_insert.1 hid).resolve_left heq
      · exact hid
  · intro id hid
    rw [hreleased] at hid
    split_ifs at hid with hreceivable
    · rcases Finset.mem_insert.1 hid with rfl | hmem
      · exact hreceivable
      · exact hcounts.recorded id hmem
    · exact hcounts.recorded id hid
  · intro id hlive hsend
    rw [hfind'] at hlive
    split_ifs at hlive
    · exact absurd rfl hlive
    · exact hnext ▸ hcounts.opened id hlive hsend
  · intro id hid
    rcases eq_or_ne id streamId with rfl | hne
    · exact Or.inr hself
    · refine (hU id hid).imp (fun hlive => ?_) (hstill id)
      rw [hfind', if_neg hne]
      exact hlive

end Rule

/-! ## The operations -/

section Operations

variable {config : H2SessionConfig} {isServer : Bool} {U S : Set Nat} {w : WtSessionInfo}

theorem newStream_flags (config : H2SessionConfig) (streamId : Nat) (isLocal isUni : Bool)
    (w : WtSessionInfo) : (w.newStream config streamId isLocal isUni).flags = (isLocal, isUni) := by
  unfold newStream initializeStreamSendCredit
  split <;> rfl

/-- `incoming_stream_exceeds_limit` holds the index of an implicitly created stream below the
limit. -/
theorem index_lt_of_not_exceeds {streamId : Nat} {isUni : Bool}
    (hlimit : w.incomingStreamExceedsLimit streamId = false)
    (hpeer : peerInitiated isServer isUni streamId = true) :
    streamId / 4 < w.maxStreamsRemote isUni := by
  have hdir : isUniId streamId = isUni := by
    unfold peerInitiated at hpeer
    exact beq_iff_eq.1 (Bool.and_eq_true_iff.1 hpeer).1
  unfold incomingStreamExceedsLimit at hlimit
  have hle := of_decide_eq_false hlimit
  rw [hdir] at hle
  exact Nat.lt_of_succ_le (not_lt.1 hle)

/-- Every operation but `open_stream` keeps the counts. -/
theorem counts_rule : TableRule config isServer (Keeps config isServer U S) where
  beside _ _ htable h := keeps_beside htable h
  rewrite hfind hflags h := keeps_rewrite hfind hflags h
  create hreceivable hnone hreleased hlimit h := by
    refine keeps_new hnone hreleased (newStream_flags _ _ _ _ _)
      (fun isUni => index_lt_of_not_exceeds hlimit) ?_ ?_ h
    · intro hsend
      rw [hreceivable] at hsend
      cases hsend
    · intro hfew hmem
      rcases (h hfew).2.1 _ hmem with hrecorded | ⟨hsend, -, -⟩
      · exact hreleased hrecorded
      · rw [hreceivable] at hsend
        cases hsend
  release hfind h := keeps_release hfind h

/-- The call gives a released id out again: `open_stream` looks for the next id among the live
streams only. -/
def Reopens (isServer : Bool) (w : WtSessionInfo) (op : Op) : Prop :=
  op = .openStream false ∧ w.isEstablished = true ∧ w.hasRoom false ∧
    w.streams.find? (w.nextStreamId isServer false) = none ∧
    w.nextStreamId isServer false ∈ w.releasedStreamIds

/-- The entry with the stream that `open_stream` creates. -/
def opened (config : H2SessionConfig) (isServer isUni : Bool) (w : WtSessionInfo) : WtSessionInfo :=
  (w.allocateStreamId isUni).setStream (w.nextStreamId isServer isUni)
    ((w.allocateStreamId isUni).newStream config (w.nextStreamId isServer isUni) true isUni)

/-- `open_stream` creates a stream where it may, and changes nothing in the table otherwise. -/
theorem openStream_opens {isUni : Bool} (hestablished : w.isEstablished = true)
    (hroom : w.hasRoom isUni) (hnone : w.streams.find? (w.nextStreamId isServer isUni) = none) :
    (w.openStream config isServer isUni).1.1 = w.opened config isServer isUni := by
  have hnot : ¬ (w.streams.find? (w.nextStreamId isServer isUni)).isSome = true :=
    Option.not_isSome_iff_eq_none.2 hnone
  unfold openStream
  rw [if_neg (by rw [hestablished]; decide)]
  cases isUni with
  | true =>
      have huni : w.streamsUniOpened < w.maxStreamsUniLocal := hroom
      rw [if_neg fun hboth => absurd hboth.2 (not_le.2 huni), if_neg (by simp)]
      exact congrArg (fun q : Queued × Int => q.1.1) (if_neg hnot)
  | false =>
      have hbidi : w.streamsBidiOpened < w.maxStreamsBidiLocal := hroom
      rw [if_neg (by simp), if_neg fun hboth => absurd hboth.2 (not_le.2 hbidi)]
      exact congrArg (fun q : Queued × Int => q.1.1) (if_neg hnot)

theorem openStream_table {isUni : Bool}
    (hnot : ¬ (w.isEstablished = true ∧ w.hasRoom isUni ∧
      w.streams.find? (w.nextStreamId isServer isUni) = none)) :
    (w.openStream config isServer isUni).1.1.table = w.table := by
  unfold openStream
  cases isUni with
  | true =>
      simp only [if_true, true_and, Bool.not_true, Bool.false_eq_true, false_and, if_false]
      split_ifs with hest hfull hsent hsome
      · rfl
      · rfl
      · rfl
      · rfl
      · refine absurd ⟨?_, not_le.1 hfull, Option.not_isSome_iff_eq_none.1 hsome⟩ hnot
        simpa using hest
  | false =>
      simp only [if_false, true_and, Bool.not_false, Bool.false_eq_true, false_and]
      split_ifs with hest hfull hsent hsome
      · rfl
      · rfl
      · rfl
      · rfl
      · refine absurd ⟨?_, not_le.1 hfull, Option.not_isSome_iff_eq_none.1 hsome⟩ hnot
        simpa using hest

theorem keeps_opened (isUni : Bool)
    (hnone : w.streams.find? (w.nextStreamId isServer isUni) = none)
    (hfresh : w.releasedStreamIds.card < kMaxReceivedMapEntries → isUni = false →
      w.nextStreamId isServer false ∉ w.releasedStreamIds)
    (h : Keeps config isServer U S w) :
    Keeps config isServer U S (w.opened config isServer isUni) := by
  intro hfew
  have hfew' : w.releasedStreamIds.card < kMaxReceivedMapEntries := by
    cases isUni <;> exact hfew
  have hallocated : Keeps config isServer U S (w.allocateStreamId isUni) := by
    refine keeps_later ?_ ?_ ?_ ?_ h
    · cases isUni <;> rfl
    · cases isUni <;> rfl
    · cases isUni <;> exact fun _ => rfl
    · cases isUni
      · exact le_rfl
      · exact Nat.le_succ _
  have hserver : isServerId (w.nextStreamId isServer isUni) = isServer :=
    isServerId_buildStreamId _ _ _
  have huni : isUniId (w.nextStreamId isServer isUni) = isUni := isUniId_buildStreamId _ _ _
  have hindex : w.nextStreamId isServer true / 4 = w.nextUniStreamId := buildStreamId_div _ _ _
  have hreceivable : isReceivableDataCapsule (w.nextStreamId isServer isUni) isServer = !isUni := by
    unfold isReceivableDataCapsule
    rw [huni, hserver, beq_self_eq_true]
    cases isUni <;> rfl
  have hnot : w.nextStreamId isServer isUni ∉ w.releasedStreamIds := by
    cases isUni with
    | false => exact hfresh hfew' rfl
    | true =>
        intro hmem
        have hrecorded := (h hfew').1.recorded _ hmem
        rw [hreceivable] at hrecorded
        cases hrecorded
  refine keeps_new ?_ ?_ ?_ ?_ ?_ ?_ hallocated hfew
  · cases isUni <;> exact hnone
  · cases isUni <;> exact hnot
  · rw [hserver, huni, beq_self_eq_true]
    exact newStream_flags _ _ _ _ _
  · intro isUni' hpeer
    unfold peerInitiated at hpeer
    rw [hserver, beq_self_eq_true] at hpeer
    simp at hpeer
  · intro hsend
    cases isUni with
    | false =>
        rw [hreceivable] at hsend
        cases hsend
    | true =>
        rw [hindex]
        exact Nat.lt_succ_self _
  · intro _ hmem
    rcases (h hfew').2.1 _ hmem with hrecorded | ⟨hsend, hlt, -⟩
    · exact hnot hrecorded
    · cases isUni with
      | false =>
          rw [hreceivable] at hsend
          cases hsend
      | true =>
          rw [hindex] at hlt
          exact lt_irrefl _ hlt

/-- Every call of the application keeps the counts, unless it gives a released id out again. -/
theorem keeps_after (op : Op)
    (hpermitted : w.releasedStreamIds.card < kMaxReceivedMapEntries → ¬ w.Reopens isServer op)
    (h : Keeps config isServer U S w) : Keeps config isServer U S (w.after config isServer op) := by
  cases op with
  | openStream isUni =>
      by_cases hopens : w.isEstablished = true ∧ w.hasRoom isUni ∧
          w.streams.find? (w.nextStreamId isServer isUni) = none
      · rcases hopens with ⟨hestablished, hroom, hnone⟩
        have hkeeps : Keeps config isServer U S (w.opened config isServer isUni) := by
          refine keeps_opened isUni hnone ?_ h
          intro hfew hdir hmem
          subst hdir
          exact hpermitted hfew ⟨rfl, hestablished, hroom, hnone, hmem⟩
        have hopened : w.after config isServer (.openStream isUni) =
            w.opened config isServer isUni := openStream_opens hestablished hroom hnone
        rw [hopened]
        exact hkeeps
      · exact keeps_beside (openStream_table hopens) h
  | sendStreamData streamId data fin => exact counts_rule.after _ (by simp) h
  | resetStream streamId errorCode => exact counts_rule.after _ (by simp) h
  | stopSending streamId errorCode => exact counts_rule.after _ (by simp) h
  | sendDatagram data => exact h
  | drainSession => exact h
  | closeSession errorCode message => exact h
  | receive c => exact h

end Operations

/-! ## Along a run -/

section Run

variable {config : H2SessionConfig} {isServer : Bool} {U S : Set Nat}

theorem initialStreams_le (hcheck : config.check = .ok ()) (isUni : Bool) :
    config.initialStreams isUni ≤ kMaxStreamsLimit := by
  rcases H2SessionConfig.check_ok hcheck with ⟨-, -, hbidi, huni⟩
  have hsettings : kMaxSettingsValue ≤ kMaxStreamsLimit := by decide
  cases isUni with
  | true => exact huni.trans hsettings
  | false => exact hbidi.trans hsettings

theorem counts_requested {w : WtSessionInfo} (hcheck : config.check = .ok ())
    (hw : w.Requested config) : Counts config isServer w := by
  have hgone : ∀ id, w.streams.find? id = none := by
    intro id
    rw [hw.streams]
    rfl
  refine ⟨?_, ?_, fun id _ => hgone id, ?_, fun id hlive => absurd (hgone id) hlive⟩
  · intro id info hfind
    rw [hgone] at hfind
    cases hfind
  · intro isUni
    have hquota : w.quota isServer isUni = ⟨∅, ∅, config.initialStreams isUni⟩ := by
      unfold quota liveFrom releasedFrom maxStreamsRemote H2SessionConfig.initialStreams
      rw [hw.streams, hw.released, hw.maxStreamsBidi, hw.maxStreamsUni]
      rfl
    rw [hquota]
    exact Quota.kept_start (initialStreams_le hcheck isUni)
  · intro id hid
    rw [hw.released] at hid
    exact absurd hid (Finset.notMem_empty id)

/-- As long as no released id is given out again, the counts are kept. -/
theorem counts_keeping : Keeping config isServer
    (fun w op => w.releasedStreamIds.card < kMaxReceivedMapEntries → ¬ w.Reopens isServer op)
    (Keeps config isServer U S) where
  bookkeeping w w' hcore hw := counts_rule.beside w (congrArg table hcore :) hw
  limits := by
    rintro w ⟨u, bl, br⟩ hw
    cases u <;> cases bl <;> cases br <;> exact counts_rule.beside w rfl hw
  api op _ hpermitted _ hw := keeps_after op hpermitted hw
  received r _ _ _ hw := counts_rule.judge r hw

theorem counts_lasting (hcheck : config.check = .ok ()) : Lasting config isServer
    (fun w op => w.releasedStreamIds.card < kMaxReceivedMapEntries → ¬ w.Reopens isServer op)
    (Keeps config isServer ∅ ∅) where
  toKeeping := counts_keeping
  requested hw _ := ⟨counts_requested hcheck hw, fun _ hmem => hmem.elim, fun _ hmem => hmem.elim⟩

end Run

/-- The limit of a direction counts what was released, it lies above every stream of the peer, and
no more streams are live than it started with. -/
structure CountsExact (config : H2SessionConfig) (isServer isUni : Bool) (w : WtSessionInfo) :
    Prop where
  limit_eq : w.maxStreamsRemote isUni =
    min kMaxStreamsLimit (config.initialStreams isUni + (w.releasedFrom isServer isUni).card)
  index_lt : ∀ streamId ∈ w.liveFrom isServer isUni ∪ w.releasedFrom isServer isUni,
    streamId / 4 < w.maxStreamsRemote isUni
  live_le : (w.liveFrom isServer isUni).card ≤ config.initialStreams isUni

theorem Counts.exact {config : H2SessionConfig} {isServer : Bool} {w : WtSessionInfo}
    (h : Counts config isServer w) (isUni : Bool) : CountsExact config isServer isUni w := by
  have hkept := h.kept isUni
  refine ⟨hkept.limit_eq, ?_, hkept.live_card_le (index_injOn isServer isUni)⟩
  intro streamId hmem
  rcases Finset.mem_union.1 hmem with hlive | hreleased
  · exact (hkept.live_lt streamId hlive).2
  · exact (hkept.returned_lt streamId hreleased).2

end WtSessionInfo

namespace H2Session

open WtSessionInfo (CountsExact Counts Keeps Released counts_keeping counts_lasting)

/-- Every state of the run has exact counts and no released id among its streams. -/
def CountsHold (s : H2Session) (sessionId : Int) (inputs : List Input) : Prop :=
  ∀ sc w, s.Passes sessionId inputs sc → sc.entry = some w →
    w.releasedStreamIds.card < kMaxReceivedMapEntries →
      (∀ isUni, CountsExact s.config s.isServer isUni w) ∧
        ∀ streamId ∈ w.releasedStreamIds, w.streams.find? streamId = none

/-- Along the run a stream that was there is there or released, and a released one never comes
back. -/
def ReleasedForGood (s : H2Session) (sessionId : Int) (inputs : List Input) : Prop :=
  ∀ front back w w', front ++ back <+: s.runCalls sessionId inputs →
    (∀ w₀ events, .request w₀ events ∉ back) → (s.viewAfter sessionId front).entry = some w →
      (s.viewAfter sessionId (front ++ back)).entry = some w' →
        w'.releasedStreamIds.card < kMaxReceivedMapEntries → ∀ streamId,
          (w.streams.find? streamId ≠ none →
            w'.streams.find? streamId ≠ none ∨ Released s.isServer w' streamId) ∧
          (Released s.isServer w streamId → w'.streams.find? streamId = none)

section Theorem

variable {isServer : Bool} {config : H2SessionConfig} {s : H2Session} {sessionId : Int}
  {inputs : List Input}

/-- Opening a released id again shows in the next state. -/
theorem reopens_shows {calls : List Call} {op : Op} {w : WtSessionInfo}
    (hentry : (s.viewAfter sessionId calls).entry = some w)
    (hreopens : w.Reopens s.isServer op) :
    (s.viewAfter sessionId (calls ++ [Call.api op])).entry =
      some (w.opened s.config s.isServer false) := by
  rcases hreopens with ⟨rfl, hestablished, hroom, hnone, -⟩
  unfold viewAfter at hentry ⊢
  rw [List.foldl_append]
  simp only [List.foldl_cons, List.foldl_nil, View.call, SessionScope.call, SessionScope.step,
    SessionScope.onEntry, hentry, SessionScope.store]
  exact congrArg some (WtSessionInfo.openStream_opens hestablished hroom hnone)

/-- In every run of a session in which fewer than `kMaxReceivedMapEntries` released ids are
recorded, the counts are exact and no released id comes back, if and only if no call of
`open_stream` gives a released id out again. -/
theorem stream_counts_iff (h : create isServer config = .ok s) (sessionId : Int)
    (inputs : List Input) :
    s.CountsHold sessionId inputs ∧ s.ReleasedForGood sessionId inputs ↔
      s.KeepsTo sessionId (fun w op =>
        w.releasedStreamIds.card < kMaxReceivedMapEntries → ¬ w.Reopens s.isServer op) inputs := by
  rcases create_view h sessionId with ⟨-, hrole, hconfig⟩
  have hcheck := check_of_create h
  constructor
  · rintro ⟨-, hgood⟩ calls c hcalls op w rfl hentry hfew hreopens
    -- The new stream is live, and its id was recorded as released.
    have hnext := reopens_shows hentry hreopens
    have hreleased : Released s.isServer w (w.nextStreamId s.isServer false) :=
      Or.inl hreopens.2.2.2.2
    have hgone := (hgood calls [Call.api op] w _ hcalls (by simp) hentry hnext hfew _).2 hreleased
    exact ((WtSessionInfo.find?_setStream_none _ _ _ _).1 hgone).1 rfl
  · intro hkeeps
    rw [hrole] at hkeeps
    refine ⟨?_, ?_⟩
    · intro sc w hpasses hentry hfew
      have hholding := passes_holding (counts_lasting hcheck) h hkeeps hpasses
      have hcounts : Counts config isServer w := (hholding.entry w hentry hfew).1
      rw [hrole, hconfig]
      exact ⟨hcounts.exact, hcounts.apart⟩
    · intro front back w w' hcalls hnone hentry hentry' hfew streamId
      rw [hrole]
      have hfront : front <+: s.runCalls sessionId inputs :=
        (List.prefix_append front back).trans hcalls
      have hbefore := scopeAfter_holding (counts_lasting hcheck) h hkeeps hfront
      -- What is live and what is released in front of the calls is followed through them.
      let live : Set Nat := {id | w.streams.find? id ≠ none}
      let released : Set Nat := {id | Released isServer w id}
      have hstart : Keeping.Holding config isServer (Keeps config isServer live released)
          (s.scopeAfter sessionId front) := by
        refine ⟨hbefore.sound, hbefore.config_eq, ?_⟩
        intro w₁ hw₁ hfew₁
        have hsame : w₁ = w := Option.some_injective _ (hw₁.symm.trans hentry)
        subst hsame
        exact ⟨(hbefore.entry w₁ hw₁ hfew₁).1, fun id hid => hid, fun id hid => Or.inl hid⟩
      have hafter := scopeAfter_keeping counts_keeping h hkeeps hcalls
        (fun w₀ events hmem => absurd hmem (hnone w₀ events)) hstart
      rcases hafter.entry w' hentry' hfew with ⟨hcounts, hreleased, hlive⟩
      exact ⟨hlive streamId, fun hid => hcounts.not_live (hreleased streamId hid)⟩

end Theorem

/-- The peer lets this side open one stream, uses the id of that stream first and ends it; this side
ends it too, and the stream is released. -/
def releasedFirst : List Input :=
  .recvSettingsEntry 0x2b65 1 :: openSession 1 ++
    [.recvData 1 (encodeCapsule CapsuleType.wtStreamFin.toNat (varintBytes 1)) none,
      .sendStreamData 1 1 [] true]

/-- One stream has been released, and the next call of `open_stream` creates it again. -/
theorem released_id_reopened :
    create true {} = .ok { isServer := true, config := {} } ∧
      ((run { isServer := true, config := {} } releasedFirst).wtSessions.find? 1).map
        (fun w => (w.releasedStreamIds, (w.streams.find? 1).isSome)) = some ({1}, false) ∧
      ((run { isServer := true, config := {} } (releasedFirst ++ [.openStream 1 false])
        ).wtSessions.find? 1).map
        (fun w => (w.releasedStreamIds, (w.streams.find? 1).isSome)) = some ({1}, true) := by
  refine ⟨rfl, ?_, ?_⟩
  · decide +kernel
  · decide +kernel

/-- A run that opens no stream here meets the condition. -/
theorem stream_counts_iff_released :
    CountsHold { isServer := true, config := {} } 1 releasedFirst ∧
      ReleasedForGood { isServer := true, config := {} } 1 releasedFirst := by
  have hcreate : create true {} = .ok { isServer := true, config := {} } := rfl
  refine (stream_counts_iff hcreate 1 releasedFirst).2 ?_
  intro calls c hcalls op w hc _ _ hreopens
  have hnone : (runCalls { isServer := true, config := {} } 1 releasedFirst).all
      (fun | .api (.openStream _) => false | _ => true) = true := by decide +kernel
  have hmem : c ∈ runCalls { isServer := true, config := {} } 1 releasedFirst :=
    hcalls.subset (by simp)
  have hc' := List.all_eq_true.1 hnone c hmem
  rw [hc, hreopens.1] at hc'
  cases hc'

end H2Session

end H2
end WebTransport
